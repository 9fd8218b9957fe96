import Mathlib.Data.List.Chain
import TestReach.Proofs.Scan
import TestReach.Proofs.Trace.Trail

namespace TestReach.Trace

variable {survey : Survey} {depth : Nat} {task : Task} {claimed : List String}
  {cases : TestCase.Cases} {trail : Trail}

def Task.Starts : Task → Term → Prop
  | trace term, first => first = term
  | follow _ uses, first => ∃ m ∈ uses, m.Within first

/-- Every term is scanned for at the end of a chain of scans. The chain's claims stand in the trail in
order. -/
theorem Returns.chain_of_scanned (h : Returns survey depth task claimed cases trail) {last : Term}
    (hlast : last ∈ trail.scanned) :
    ∃ first steps, task.Starts first ∧ steps.length < depth ∧
      List.IsChain (Leads survey) (first :: steps) ∧ (first :: steps).getLast? = some last ∧
      (∀ step ∈ first :: steps, step ∈ trail.scanned) ∧
      ((first :: steps).map Term.text).Sublist (task.entry ++ trail.claimed) := by
  induction h with
  | spent | done => simp at hlast
  | @ambiguous _ term =>
    obtain rfl : last = term := by simpa using hlast
    exact ⟨last, [], rfl, by simp, by simp, rfl, by simp, by simp⟩
  | @round depth term _ results records _ trail hsurvey hround _ ih =>
    simp only [Trail.scanned_append, List.singleton_append, List.mem_cons] at hlast
    rcases hlast with rfl | hlast
    · exact ⟨last, [], rfl, by simp, by simp, rfl, by simp, by simp⟩
    · -- The round puts its own term in front of a chain that one of its uses begins.
      obtain ⟨first, steps, hstarts, hlength, hchain, hend, hscans, hclaims⟩ := ih hlast
      have hleads : Leads survey term first := (leads_iff hsurvey).mpr ⟨hround, hstarts⟩
      refine ⟨term, first :: steps, rfl, ?_, ?_, ?_, ?_, ?_⟩
      · simpa using hlength
      · exact List.isChain_cons_cons.mpr ⟨hleads, hchain⟩
      · rw [List.getLast?_cons_cons, hend]
      · intro step hstep
        rcases List.mem_cons.mp hstep with rfl | hstep
        · simp
        · simp [hscans step hstep]
      · simpa using hclaims
  | orphan _ _ ih | known _ _ _ ih =>
    obtain ⟨first, steps, ⟨m, hm, hwithin⟩, hrest⟩ := ih hlast
    exact ⟨first, steps, ⟨m, List.mem_cons_of_mem _ hm, hwithin⟩, hrest⟩
  | @extended _ _ m _ _ _ _ trailFirst trailRest next hwithin _ _ _ ihFirst ihRest =>
    simp only [Trail.scanned_append, List.nil_append, List.mem_append] at hlast
    rcases hlast with hlast | hlast
    · obtain ⟨first, steps, rfl, hlength, hchain, hend, hscans, hclaims⟩ := ihFirst hlast
      refine ⟨first, steps, ⟨m, List.mem_cons_self, hwithin⟩, hlength, hchain, hend,
        fun step hstep => by simp [hscans step hstep], ?_⟩
      have hwhole : (Task.follow [] []).entry ++ ({ claimed := [first.text] } ++ trailFirst ++
          trailRest : Trail).claimed = ([first.text] ++ trailFirst.claimed) ++ trailRest.claimed := by
        simp
      exact hwhole ▸ hclaims.trans (List.sublist_append_left _ _)
    · obtain ⟨first, steps, ⟨m', hm', hwithin'⟩, hlength, hchain, hend, hscans, hclaims⟩ :=
        ihRest hlast
      refine ⟨first, steps, ⟨m', List.mem_cons_of_mem _ hm', hwithin'⟩, hlength, hchain, hend,
        fun step hstep => by simp [hscans step hstep], ?_⟩
      exact hclaims.trans (List.sublist_append_right _ _)

theorem Returns.chain_of_case {term : Term}
    (h : Returns survey depth (.trace term) claimed cases trail) {k : String} {case : TestCase}
    (hcase : (k, case) ∈ cases) :
    ∃ steps last, steps.length < depth ∧ List.IsChain (Leads survey) (term :: steps) ∧
      (term :: steps).getLast? = some last ∧ (∀ step ∈ steps, step ∈ trail.scanned) ∧
      (steps.map Term.text).Sublist trail.claimed ∧
      ∃ result, Keeps survey last result ∧ result.info.identifier ≠ "" ∧
        result.info.identifier = k ∧ result.path = case.path ∧ result.info = case.info := by
  obtain ⟨result, hresult, hid, hentry⟩ := (h.mem_cases hcase).resolve_left (by simp)
  cases hentry
  obtain ⟨last, hlast, hkeeps⟩ := h.mem_committed.mp hresult
  obtain ⟨_, steps, rfl, hlength, hchain, hend, hscans, hclaims⟩ := h.chain_of_scanned hlast
  exact ⟨steps, last, hlength, hchain, hend,
    fun step hstep => hscans step (List.mem_cons_of_mem _ hstep), by simpa using hclaims, result,
    hkeeps, hid, rfl, rfl, rfl⟩

theorem sample_trace_two : ∃ journal,
    inTree Sample.scanner Sample.tree Sample.root 2 (.literal "x") {} =
      (.ok Sample.found, journal) := by
  rw [inTree, Sample.survey_eq]
  exact exists_journal_of_ok (ok_of_toOption (by decide +kernel))

/-- Every test case that a trace finds is reached over a chain of fewer than `depth` links. No round
on the way is ambiguous, no term on it is claimed twice or was claimed before, and the round at its
end keeps the test case with just this path and information. -/
theorem exists_chain_of_found (scanner : Scanner) (disk : Disk) (root : Path) (depth : Nat)
    (term : Term) (journal : Journal) {cases : TestCase.Cases} {k : String} {case : TestCase}
    (h : (inTree scanner disk root depth term journal).1 = .ok cases) (hcase : (k, case) ∈ cases) :
    k ≠ "" ∧ k = case.info.identifier ∧
      ∃ steps last, steps.length < depth ∧
        List.IsChain (Leads (scanner.survey disk root)) (term :: steps) ∧
        (term :: steps).getLast? = some last ∧
        (steps.map Term.text).Nodup ∧ (∀ step ∈ steps, step.text ∉ journal.claimed) ∧
        ∃ result, Keeps (scanner.survey disk root) last result ∧
          result.info.identifier = k ∧ result.path = case.path ∧ result.info = case.info := by
  obtain ⟨trail, hreturns, -⟩ := returns_of_run depth term journal (Prod.ext h rfl)
  obtain ⟨steps, last, hlength, hchain, hend, -, hclaims, result, hkeeps, hne, hid, hpath, hinfo⟩ :=
    hreturns.chain_of_case hcase
  obtain ⟨hnodup, hfresh⟩ := hreturns.claimed_fresh
  refine ⟨hid ▸ hne, by rw [← hid, hinfo], steps, last, hlength, hchain, hend,
    hclaims.nodup hnodup, ?_, result, hkeeps, hid, hpath, hinfo⟩
  intro step hstep
  exact hfresh _ (hclaims.subset (List.mem_map_of_mem hstep))

theorem sample_found_over_chain :
    (inTree Sample.scanner Sample.tree Sample.root 2 (.literal "x") {}).1 = .ok Sample.found ∧
    ∃ steps last, steps.length < 2 ∧
      List.IsChain (Leads (Sample.scanner.survey Sample.tree Sample.root)) (.literal "x" :: steps) ∧
      (.literal "x" :: steps).getLast? = some last ∧
      ∃ result, Keeps (Sample.scanner.survey Sample.tree Sample.root) last result ∧
        result.info.identifier = "P-1" := by
  have hfound : (inTree Sample.scanner Sample.tree Sample.root 2 (.literal "x") {}).1 =
      .ok Sample.found := by
    rw [inTree, Sample.survey_eq]
    exact ok_of_toOption (by decide +kernel)
  obtain ⟨-, -, steps, last, hlength, hchain, hend, -, -, result, hkeeps, hid, -, -⟩ :=
    exists_chain_of_found _ _ _ _ _ _ hfound List.mem_cons_self
  exact ⟨hfound, steps, last, hlength, hchain, hend, result, hkeeps, hid⟩

end TestReach.Trace
