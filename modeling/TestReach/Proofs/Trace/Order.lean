import TestReach.Proofs.Trace.Depth

namespace TestReach

namespace Trace

/-- The same results, each list in an order of its own, or a failure on both sides. -/
inductive SameResults : Except SourceFiles.ListError (List FileResult × List Log.Record) →
    Except SourceFiles.ListError (List FileResult × List Log.Record) → Prop where
  | found {results results' records records'} (h : results.Perm results') :
      SameResults (.ok (results, records)) (.ok (results', records'))
  | failed {error error'} : SameResults (.error error) (.error error')

/-- Surveys that find the same for every term. -/
def Reordered (survey survey' : Survey) : Prop :=
  ∀ term, SameResults (survey term) (survey' term)

/-- The results for every term come in the order of their files in `order`. -/
def ListedIn (survey : Survey) (order : List String) : Prop :=
  ∀ term results records, survey term = .ok (results, records) →
    (results.map (·.path)).Sublist order

variable {survey survey' : Survey} {depth : Nat} {term : Term} {cases cases' : TestCase.Cases}
  {trail trail' : Trail} {journal journal' : Journal} {k : String}

theorem SameResults.symm {found found'} (h : SameResults found found') : SameResults found' found := by
  cases h with
  | found h => exact .found h.symm
  | failed => exact .failed

theorem Reordered.symm (h : Reordered survey survey') : Reordered survey' survey :=
  fun term => (h term).symm

theorem Reordered.keeps (h : Reordered survey survey') {result : FileResult}
    (hkeeps : Keeps survey term result) : Keeps survey' term result := by
  obtain ⟨results, records, hsurvey, hround, hresult⟩ := hkeeps
  have hterm := h term
  rw [hsurvey] at hterm
  generalize hsurvey' : survey' term = found at hterm
  cases hterm with
  | found hperm =>
    exact ⟨_, _, hsurvey', Round.decision_classify_perm hperm ▸ hround,
      (Round.results_classify_perm hperm).mem_iff.mp hresult⟩

theorem Reordered.keeps_eq (h : Reordered survey survey') : Keeps survey = Keeps survey' := by
  funext term result
  exact propext ⟨h.keeps, h.symm.keeps⟩

theorem Reordered.leads_eq (h : Reordered survey survey') : Leads survey = Leads survey' := by
  funext term next
  simp only [Leads, h.keeps_eq]

theorem Reordered.reachedTexts_eq (h : Reordered survey survey') (roots : List Term) :
    reachedTexts survey roots = reachedTexts survey' roots := by
  simp only [reachedTexts, h.leads_eq]

theorem Reordered.blocks_iff (h : Reordered survey survey') :
    journal.Blocks survey term k ↔ journal.Blocks survey' term k := by
  simp only [Journal.Blocks, h.keeps_eq, h.leads_eq]

/-- A test case that a trace finds is not blocked where nothing is left out, nor where the root's own
round keeps it. -/
theorem Returns.not_blocks_of_found (h : Returns survey depth (.trace term) [] cases trail)
    (hk : k ∈ cases.keys) (hcase : depth ≤ 1 ∨ ∀ step, ¬ journal.LeavesOut step) :
    ¬ journal.Blocks survey term k := by
  intro hblocked
  obtain ⟨⟨_, case⟩, hcase', rfl⟩ := List.mem_map.mp hk
  obtain ⟨steps, last, hlength, hchain, hend, -, -, result, hkeeps, -, hid, -, -⟩ :=
    h.chain_of_case hcase'
  obtain ⟨step, hstep, hleft⟩ := hblocked steps last result hchain hend hkeeps hid
  rcases hcase with hshallow | hnone
  · obtain rfl : steps = [] := List.eq_nil_of_length_eq_zero (by omega)
    cases hstep
  · exact hnone step hleft

/-- What is found in one order is found in the other unless it is blocked there. -/
theorem Reordered.mem_keys_iff (hsame : Reordered survey survey')
    (h : Returns survey depth (.trace term) [] cases trail)
    (h' : Returns survey' depth (.trace term) [] cases' trail')
    (hclaimed : journal'.claimed = trail'.claimed) (hscanned : journal'.scanned = trail'.scanned)
    (hk : k ∈ cases.keys) : k ∈ cases'.keys ↔ ¬ journal'.Blocks survey term k := by
  obtain ⟨⟨_, case⟩, hcase, rfl⟩ := List.mem_map.mp hk
  obtain ⟨steps, -, hlength, -, -, -, -, result, -, hne, rfl, -, -⟩ := h.chain_of_case hcase
  rw [hsame.blocks_iff]
  exact h'.mem_keys_iff_not_blocks hclaimed hscanned (by omega) hne

/-- In another order of the same results a trace finds the same test cases but for those that one of
the two blocks. None is blocked where no term is left out, as with more depth than there are texts to
reach, and none that the root's own round keeps. -/
theorem reordered_keeps_iff_not_blocks (hsame : Reordered survey survey') (depth : Nat) (term : Term)
    {cases cases' : TestCase.Cases} {journal journal' : Journal}
    (h : run survey depth term {} = (.ok cases, journal))
    (h' : run survey' depth term {} = (.ok cases', journal')) :
    (∀ k ∈ cases.keys, k ∈ cases'.keys ↔ ¬ journal'.Blocks survey term k) ∧
    (∀ k ∈ cases'.keys, k ∈ cases.keys ↔ ¬ journal.Blocks survey term k) ∧
    (depth ≤ 1 ∨ (∀ step, ¬ journal.LeavesOut step ∧ ¬ journal'.LeavesOut step) ∨
        (reachedTexts survey [term]).encard < depth →
      ∀ k, k ∈ cases.keys ↔ k ∈ cases'.keys) := by
  obtain ⟨trail, hreturns, hadds⟩ := returns_of_run depth term {} h
  obtain ⟨trail', hreturns', hadds'⟩ := returns_of_run depth term {} h'
  have hclaimed : journal.claimed = trail.claimed := by simpa using hadds.claimed
  have hscanned : journal.scanned = trail.scanned := by simpa using hadds.scanned
  have hclaimed' : journal'.claimed = trail'.claimed := by simpa using hadds'.claimed
  have hscanned' : journal'.scanned = trail'.scanned := by simpa using hadds'.scanned
  have hthere : ∀ k ∈ cases.keys, k ∈ cases'.keys ↔ ¬ journal'.Blocks survey term k :=
    fun k hk => hsame.mem_keys_iff hreturns hreturns' hclaimed' hscanned' hk
  have hback : ∀ k ∈ cases'.keys, k ∈ cases.keys ↔ ¬ journal.Blocks survey' term k :=
    fun k hk => hsame.symm.mem_keys_iff hreturns' hreturns hclaimed hscanned hk
  refine ⟨hthere, fun k hk => by rw [hsame.blocks_iff, hback k hk], fun hcase k => ?_⟩
  -- Each of the three conditions leaves nothing out on both sides, or no chain to leave it out of.
  have hfree : depth ≤ 1 ∨ ∀ step, ¬ journal.LeavesOut step ∧ ¬ journal'.LeavesOut step := by
    rcases hcase with hshallow | hnone | hdepth
    · exact Or.inl hshallow
    · exact Or.inr hnone
    · refine Or.inr fun step => ⟨hreturns.not_leavesOut hclaimed hscanned hdepth step, ?_⟩
      rw [hsame.reachedTexts_eq] at hdepth
      exact hreturns'.not_leavesOut hclaimed' hscanned' hdepth step
  constructor
  · intro hk
    exact (hthere k hk).mpr
      (hreturns.not_blocks_of_found hk (hfree.imp_right fun hnone step => (hnone step).2))
  · intro hk
    exact (hback k hk).mpr
      (hreturns'.not_blocks_of_found hk (hfree.imp_right fun hnone step => (hnone step).1))

end Trace

namespace Scanner

variable {scanner : Scanner} {disk : Disk} {files files' : List Path}

theorem listedIn_visitAll (scanner : Scanner) (disk : Disk) (files : List Path) :
    Trace.ListedIn (fun term => .ok (scanner.visitAll disk files term)) (files.map Path.toString) := by
  intro term results records h
  rw [Except.ok.injEq] at h
  have hsublist := paths_visitAll scanner disk files term
  rwa [h] at hsublist

theorem reordered_visitAll (h : files.Perm files') :
    Trace.Reordered (fun term => .ok (scanner.visitAll disk files term))
      (fun term => .ok (scanner.visitAll disk files' term)) := by
  intro term
  have hperm : (scanner.visitAll disk files term).1.Perm (scanner.visitAll disk files' term).1 := by
    rw [results_visitAll, results_visitAll]
    exact h.filterMap _
  exact .found hperm

end Scanner

namespace Sample

def otherFiles : List Path :=
  [⟨"", ["r", "c.py"]⟩, ⟨"", ["r", "a.py"]⟩, ⟨"", ["r", "b.py"]⟩,
    ⟨"", ["r", "test_cases", "g", "test_t.py"]⟩]

theorem otherFiles_perm : files.Perm otherFiles := by
  decide +kernel

end Sample

namespace Trace

theorem sample_listed_trace : ∃ journal,
    run (fun term => .ok (Sample.scanner.visitAll Sample.tree Sample.files term)) 3 (.literal "x") {} =
      (.ok [], journal) := by
  obtain ⟨journal, hthree⟩ := sample_trace_three
  rw [inTree, Sample.survey_eq] at hthree
  exact ⟨journal, hthree⟩

theorem sample_other_trace : ∃ journal,
    run (fun term => .ok (Sample.scanner.visitAll Sample.tree Sample.otherFiles term)) 3
      (.literal "x") {} = (.ok Sample.found, journal) :=
  exists_journal_of_ok (ok_of_toOption (by decide +kernel))

/-- The order of the files may decide whether a test case is found. -/
theorem order_decides_case :
    ¬ ∀ (survey survey' : Survey) (order order' : List String) (depth : Nat) (term : Term)
      (cases cases' : TestCase.Cases) (journal journal' : Journal),
      order.Nodup → order'.Perm order → ListedIn survey order → ListedIn survey' order' →
      Reordered survey survey' →
      run survey depth term {} = (.ok cases, journal) →
      run survey' depth term {} = (.ok cases', journal') →
      ∀ k, k ∈ cases.keys ↔ k ∈ cases'.keys := by
  intro h
  obtain ⟨journal, hlisted⟩ := sample_listed_trace
  obtain ⟨journal', hother⟩ := sample_other_trace
  have hkeys := h _ _ (Sample.files.map Path.toString) (Sample.otherFiles.map Path.toString) 3 _ _ _ _ _
    (by decide +kernel) (Sample.otherFiles_perm.symm.map _)
    (Scanner.listedIn_visitAll _ _ _) (Scanner.listedIn_visitAll _ _ _)
    (Scanner.reordered_visitAll Sample.otherFiles_perm) hlisted hother "P-1"
  have hfound : "P-1" ∈ Sample.found.keys := by decide
  cases hkeys.mpr hfound

/-- In the order of the sample the test case is blocked, in the other one it is not. -/
theorem sample_order_blocks : ∃ journal journal',
    run (fun term => .ok (Sample.scanner.visitAll Sample.tree Sample.files term)) 3 (.literal "x") {} =
      (.ok [], journal) ∧
    run (fun term => .ok (Sample.scanner.visitAll Sample.tree Sample.otherFiles term)) 3
      (.literal "x") {} = (.ok Sample.found, journal') ∧
    journal.Blocks (fun term => .ok (Sample.scanner.visitAll Sample.tree Sample.files term))
      (.literal "x") "P-1" := by
  obtain ⟨journal, hlisted⟩ := sample_listed_trace
  obtain ⟨journal', hother⟩ := sample_other_trace
  refine ⟨journal, journal', hlisted, hother, ?_⟩
  by_contra hopen
  have hfound := ((reordered_keeps_iff_not_blocks (Scanner.reordered_visitAll Sample.otherFiles_perm) 3
    (.literal "x") hlisted hother).2.1 "P-1" (by decide)).mpr hopen
  cases hfound

end Trace
end TestReach
