import TestReach.Proofs.Trace.Exactness

namespace TestReach.Trace

/-- The term was claimed when no depth was left, so that its round was not made. -/
def Journal.LeavesOut (journal : Journal) (term : Term) : Prop :=
  (∃ m : Match, m.Within term) ∧ term.text ∈ journal.claimed ∧ term ∉ journal.scanned

/-- On every chain of terms to the test case `k` there is one that was left out. -/
def Journal.Blocks (journal : Journal) (survey : Survey) (term : Term) (k : String) : Prop :=
  ∀ steps last result, List.IsChain (Leads survey) (term :: steps) →
    (term :: steps).getLast? = some last → Keeps survey last result →
    result.info.identifier = k → ∃ step ∈ steps, journal.LeavesOut step

variable {survey : Survey} {depth : Nat} {claimed : List String} {cases : TestCase.Cases}
  {trail : Trail} {term : Term}

/-- A chain is scanned for to its end where none of its terms is claimed before the trace or without a
scan. -/
theorem Returns.scanned_of_chain (h : Returns survey depth (.trace term) claimed cases trail)
    {first last : Term} {steps : List Term} (hfirst : first ∈ trail.scanned)
    (hchain : List.IsChain (Leads survey) (first :: steps))
    (hend : (first :: steps).getLast? = some last)
    (hfresh : ∀ step ∈ steps, step.text ∉ claimed)
    (hscans : ∀ step ∈ steps, (∃ m : Match, m.Within step) → step.text ∈ trail.claimed →
      step ∈ trail.scanned) : last ∈ trail.scanned := by
  induction steps generalizing first with
  | nil =>
    obtain rfl : first = last := by simpa using hend
    exact hfirst
  | cons next rest ih =>
    obtain ⟨⟨result, hkeeps, hnames⟩, hrest⟩ := List.isChain_cons_cons.mp hchain
    obtain ⟨hnew, hfresh⟩ := List.forall_mem_cons.mp hfresh
    -- What the round of `first` names is claimed, in this round or before; so it is scanned for.
    have hcommitted := h.mem_committed.mpr ⟨first, hfirst, hkeeps⟩
    have hclaimed : next.text ∈ trail.claimed :=
      (List.mem_append.mp (h.claimed_of_named (Or.inr ⟨result, hcommitted, hnames⟩))).resolve_left hnew
    obtain ⟨-, m, -, hwithin⟩ := hnames
    apply ih (hscans next List.mem_cons_self ⟨m, hwithin⟩ hclaimed) hrest _ hfresh
    · exact fun step hstep => hscans step (List.mem_cons_of_mem _ hstep)
    · rwa [List.getLast?_cons_cons] at hend

theorem Returns.mem_keys_iff_not_blocks (h : Returns survey depth (.trace term) [] cases trail)
    {journal : Journal} (hclaimed : journal.claimed = trail.claimed)
    (hscanned : journal.scanned = trail.scanned) (hdepth : 0 < depth) {k : String} (hk : k ≠ "") :
    k ∈ cases.keys ↔ ¬ journal.Blocks survey term k := by
  constructor
  · intro hfound hblocked
    obtain ⟨⟨_, case⟩, hcase, rfl⟩ := List.mem_map.mp hfound
    obtain ⟨steps, last, -, hchain, hend, hscans, -, result, hkeeps, -, hid, -, -⟩ :=
      h.chain_of_case hcase
    obtain ⟨step, hstep, -, -, hnot⟩ := hblocked steps last result hchain hend hkeeps hid
    exact hnot (hscanned ▸ hscans step hstep)
  · intro hopen
    simp only [Journal.Blocks, not_forall, not_exists] at hopen
    obtain ⟨steps, last, result, hchain, hend, hkeeps, hid, hfree⟩ := hopen
    have hlast := h.scanned_of_chain (h.mem_scanned hdepth) hchain hend (by simp) (by
      intro step hstep hword htext
      by_contra hnot
      exact hfree step ⟨hstep, hword, hclaimed ▸ htext, hscanned ▸ hnot⟩)
    exact h.mem_keys.mpr (Or.inr ⟨hk, result, h.mem_committed.mpr ⟨last, hlast, hkeeps⟩, hid⟩)

theorem Returns.not_leavesOut (h : Returns survey depth (.trace term) [] cases trail)
    {journal : Journal} (hclaimed : journal.claimed = trail.claimed)
    (hscanned : journal.scanned = trail.scanned)
    (hdepth : (reachedTexts survey [term]).encard < depth) (step : Term) :
    ¬ journal.LeavesOut step := by
  rintro ⟨⟨m, hwithin⟩, htext, hnot⟩
  obtain ⟨next, hnext, hsame, m', hwithin'⟩ :=
    h.exists_scanned (h.scanned_eq_of_depth hdepth) (hclaimed ▸ htext)
  rw [hwithin'.ext hwithin hsame, ← hscanned] at hnext
  exact hnot hnext

/-- Raising the depth keeps every test case that is not blocked. None is blocked where the deeper
trace leaves no term out, as with more depth than there are texts to reach, and none that the root's
own round keeps. -/
theorem deeper_keeps_iff_not_blocks (scanner : Scanner) (disk : Disk) (root : Path) (term : Term)
    {shallow deep : Nat} (hle : shallow ≤ deep) {cases cases' : TestCase.Cases}
    {journal journal' : Journal}
    (h : inTree scanner disk root shallow term {} = (.ok cases, journal))
    (h' : inTree scanner disk root deep term {} = (.ok cases', journal')) :
    (∀ k ∈ cases.keys, k ∈ cases'.keys ↔ ¬ journal'.Blocks (scanner.survey disk root) term k) ∧
    (shallow ≤ 1 ∨ (∀ step, ¬ journal'.LeavesOut step) ∨
        (reachedTexts (scanner.survey disk root) [term]).encard < deep →
      ∀ k ∈ cases.keys, k ∈ cases'.keys) := by
  obtain ⟨trail, hreturns, -⟩ := returns_of_run shallow term {} h
  obtain ⟨trail', hreturns', hadds'⟩ := returns_of_run deep term {} h'
  have hclaimed : journal'.claimed = trail'.claimed := by simpa using hadds'.claimed
  have hscanned : journal'.scanned = trail'.scanned := by simpa using hadds'.scanned
  have hchain : ∀ k ∈ cases.keys, k ≠ "" ∧ ∃ steps last result, steps.length < shallow ∧
      List.IsChain (Leads (scanner.survey disk root)) (term :: steps) ∧
      (term :: steps).getLast? = some last ∧ Keeps (scanner.survey disk root) last result ∧
      result.info.identifier = k := by
    intro k hk
    obtain ⟨⟨_, case⟩, hcase, rfl⟩ := List.mem_map.mp hk
    obtain ⟨steps, last, hlength, hsteps, hend, -, -, result, hkeeps, hne, hid, -, -⟩ :=
      hreturns.chain_of_case hcase
    exact ⟨hid ▸ hne, steps, last, result, hlength, hsteps, hend, hkeeps, hid⟩
  have hblocks : ∀ k ∈ cases.keys,
      (k ∈ cases'.keys ↔ ¬ journal'.Blocks (scanner.survey disk root) term k) := by
    intro k hk
    obtain ⟨hne, steps, -, -, hlength, -⟩ := hchain k hk
    exact hreturns'.mem_keys_iff_not_blocks hclaimed hscanned (by omega) hne
  refine ⟨hblocks, fun hcase k hk => (hblocks k hk).mpr fun hblocked => ?_⟩
  obtain ⟨-, steps, last, result, hlength, hsteps, hend, hkeeps, hid⟩ := hchain k hk
  -- If the test case is blocked, the deeper trace has left out a term of the chain that the other took.
  obtain ⟨step, hstep, hleft⟩ := hblocked steps last result hsteps hend hkeeps hid
  rcases hcase with hshallow | hnone | hdepth
  · obtain rfl : steps = [] := List.eq_nil_of_length_eq_zero (by omega)
    cases hstep
  · exact hnone step hleft
  · exact hreturns'.not_leavesOut hclaimed hscanned hdepth step hleft

theorem sample_trace_three : ∃ journal,
    inTree Sample.scanner Sample.tree Sample.root 3 (.literal "x") {} = (.ok [], journal) := by
  rw [inTree, Sample.survey_eq]
  exact exists_journal_of_ok (ok_of_toOption (by decide +kernel))

/-- A deeper trace may lose a test case. -/
theorem deeper_trace_loses_case :
    ¬ ∀ (scanner : Scanner) (disk : Disk) (root : Path) (term : Term) (shallow deep : Nat)
      (cases cases' : TestCase.Cases) (journal journal' : Journal), shallow ≤ deep →
      inTree scanner disk root shallow term {} = (.ok cases, journal) →
      inTree scanner disk root deep term {} = (.ok cases', journal') →
      ∀ k ∈ cases.keys, k ∈ cases'.keys := by
  intro h
  obtain ⟨journal, htwo⟩ := sample_trace_two
  obtain ⟨journal', hthree⟩ := sample_trace_three
  have hlost := h _ _ _ _ 2 3 _ _ _ _ (by decide) htwo hthree "P-1" (by decide)
  cases hlost

/-- In the sample the lost test case is blocked. -/
theorem sample_case_blocked : ∃ journal journal',
    inTree Sample.scanner Sample.tree Sample.root 2 (.literal "x") {} =
      (.ok Sample.found, journal) ∧
    inTree Sample.scanner Sample.tree Sample.root 3 (.literal "x") {} = (.ok [], journal') ∧
    journal'.Blocks (Sample.scanner.survey Sample.tree Sample.root) (.literal "x") "P-1" := by
  obtain ⟨journal, htwo⟩ := sample_trace_two
  obtain ⟨journal', hthree⟩ := sample_trace_three
  refine ⟨journal, journal', htwo, hthree, ?_⟩
  by_contra hopen
  have hfound := ((deeper_keeps_iff_not_blocks _ _ _ _ (by decide) htwo hthree).1 "P-1"
    (by decide)).mpr hopen
  cases hfound

end TestReach.Trace
