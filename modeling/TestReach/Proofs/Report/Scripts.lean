import TestReach.Proofs.Occurrence
import TestReach.Proofs.Outcome
import TestReach.Proofs.Report.Layout
import TestReach.Proofs.Scan
import TestReach.Proofs.TestCasePath
import TestReach.Proofs.Trace.Trail

namespace TestReach

namespace TestCase

variable {layout : Layout} {path : String}

theorem Layout.directory_in_path (h : layout.holds path = true) :
    ∃ c, (c = '/' ∨ c = '\\') ∧ layout.directory.toList ++ [c] <:+: path.toList := by
  obtain ⟨before, first, gap, second, middle, after, hcut⟩ := Layout.holds_iff_cut.mp h
  have hfirst := hcut.first_separates
  rw [Layout.isSeparator, Bool.or_eq_true, beq_iff_eq, beq_iff_eq] at hfirst
  refine ⟨first, hfirst, before, gap ++ second ::
    (layout.opening.toList ++ (middle ++ (layout.ending.toList ++ after))), ?_⟩
  simp [hcut.eq_append]

end TestCase

namespace Report

open Text

theorem backslash_not_mem_withSlashes (path : String) : '\\' ∉ withSlashes path := by
  rw [withSlashes, List.mem_map]
  rintro ⟨c, -, hc⟩
  split at hc
  · cases hc
  · rename_i hne
    exact hne (by simp [hc])

theorem scriptPath_of_found {directory path : String}
    (h : directory.toList ++ ['/'] <:+: withSlashes path) :
    ∃ script, scriptPath directory path = .ok script ∧
      directory.toList ++ ['/'] <+: script.toList ∧ script.toList <:+ withSlashes path := by
  obtain ⟨before, after, hcut⟩ := exists_firstCut h
  refine ⟨String.ofList ((withSlashes path).drop before.length), ?_, ?_, ?_⟩
  · rw [scriptPath, find?_of_firstCut hcut]
  · rw [String.toList_ofList, hcut.eq_append, List.append_assoc, List.drop_left]
    exact List.prefix_append _ _
  · rw [String.toList_ofList]
    exact List.drop_suffix _ _

theorem scriptPath_of_absent {directory path : String}
    (h : ¬ directory.toList ++ ['/'] <:+: withSlashes path) :
    scriptPath directory path = .error (.outside directory path) := by
  rw [scriptPath, find?_eq_none h]

/-- What becomes of the path of a test case: its script begins with the directory, but no script is
found if the name of the directory has a backslash. -/
structure Recognised (directory path : String) : Prop where
  script : '\\' ∉ directory.toList → ∃ script, scriptPath directory path = .ok script ∧
    directory.toList ++ ['/'] <+: script.toList ∧ script.toList <:+ withSlashes path
  outside : '\\' ∈ directory.toList → scriptPath directory path = .error (.outside directory path)

theorem recognised_of_holds {layout : TestCase.Layout} {path : String}
    (h : layout.holds path = true) : Recognised layout.directory path := by
  obtain ⟨c, hc, hin⟩ := TestCase.Layout.directory_in_path h
  constructor
  · intro hplain
    apply scriptPath_of_found
    have hdirectory : (layout.directory.toList.map fun c => if c == '\\' then '/' else c) =
        layout.directory.toList := by
      conv_rhs => rw [← List.map_id layout.directory.toList]
      apply List.map_congr_left
      rintro d hd
      have hd : d ≠ '\\' := fun h => hplain (h ▸ hd)
      simp [hd]
    have hmap := hin.map fun c => if c == '\\' then '/' else c
    rw [List.map_append, hdirectory] at hmap
    rcases hc with rfl | rfl <;> exact hmap
  · intro hbackslash
    apply scriptPath_of_absent
    exact not_infix_of_not_mem (List.mem_append_left _ hbackslash) (backslash_not_mem_withSlashes path)

theorem scriptPath_of_protocol {options : Options} {case : TestCase} {text : String}
    (h : protocol options case = .ok text) : ∃ script, scriptPath options.directory case.path = .ok script := by
  obtain ⟨address, haddress, -⟩ := bind_eq_ok.mp h
  obtain ⟨script, hscript, -⟩ := bind_eq_ok.mp haddress
  exact ⟨script, hscript⟩

theorem outside_of_protocol {options : Options} {case : TestCase} {fault : Fault}
    (h : protocol options case = .error fault) (hurl : ∀ trouble, fault ≠ .url trouble) :
    scriptPath options.directory case.path = .error fault := by
  rcases bind_eq_error.mp h with haddress | ⟨address, -, h⟩
  · rcases bind_eq_error.mp haddress with hscript | ⟨script, -, hexpand⟩
    · exact hscript
    · obtain ⟨trouble, -, htrouble⟩ := mapError_eq_error.mp hexpand
      exact absurd htrouble.symm (hurl trouble)
  · exact absurd h pure_ne_error

variable {options : Options} {approval : Option Approval} {cases group : TestCase.Cases}
  {setup : String}

theorem byDuration_perm {ordered : List TestCase} (h : byDuration cases = .ok ordered) :
    ordered.Perm (Catalog.values cases) := by
  obtain ⟨timed, htimed, h⟩ := bind_eq_ok.mp h
  obtain rfl := pure_eq_ok.mp h
  have hcases : timed.map (·.2) = Catalog.values cases := by
    apply map_of_mapM htimed
    intro case result hresult
    rw [mapError_eq_ok] at hresult
    cases hseconds : Estimate.seconds case.info.estimate with
    | error fault =>
      rw [hseconds] at hresult
      cases hresult
    | ok seconds =>
      rw [hseconds] at hresult
      cases hresult
      rfl
  rw [← hcases]
  exact (List.mergeSort_perm _ _).map _

theorem byDuration_eq_error {fault : Fault} (h : byDuration cases = .error fault) :
    ∃ trouble, fault = .estimate trouble := by
  rcases bind_eq_error.mp h with h | ⟨timed, -, h⟩
  · obtain ⟨case, -, hcase⟩ := exists_error_of_mapM h
    obtain ⟨trouble, -, rfl⟩ := mapError_eq_error.mp hcase
    exact ⟨trouble, rfl⟩
  · exact absurd h pure_ne_error

theorem exists_rendered_section {text : String} (hcases : ByIdentifier cases)
    (h : protocols options approval cases = .ok text) {entry : String × TestCase}
    (hentry : entry ∈ cases) :
    ∃ part : Section, entry ∈ part.cases ∧ ∃ text, part.render options = .ok text := by
  obtain ⟨group, hgroup, hmem⟩ := hcases.exists_group hentry
  obtain ⟨part, hpart, hin⟩ := (hcases.split approval hgroup).mem_iff.mpr hmem
  obtain ⟨texts, htexts, -⟩ := bind_eq_ok.mp h
  obtain ⟨text, htext⟩ := exists_ok_of_mapM htexts hgroup
  obtain ⟨parts, hparts, -⟩ := bind_eq_ok.mp htext
  exact ⟨part, hin, exists_ok_of_mapM hparts hpart⟩

/-- Protocols are written only if that of every test case is. -/
theorem exists_protocol_of_protocols {text : String} (hcases : ByIdentifier cases)
    (h : protocols options approval cases = .ok text) :
    ∀ entry ∈ cases, ∃ text, protocol options entry.2 = .ok text := by
  intro entry hentry
  obtain ⟨part, hin, text, htext⟩ := exists_rendered_section hcases h hentry
  obtain ⟨ordered, hordered, hrender⟩ := bind_eq_ok.mp htext
  obtain ⟨protocols, hprotocols, -⟩ := bind_eq_ok.mp hrender
  exact exists_ok_of_mapM hprotocols
    ((byDuration_perm hordered).mem_iff.mpr (List.mem_map_of_mem hin))

theorem exists_seconds_of_protocols {text : String} (hcases : ByIdentifier cases)
    (h : protocols options approval cases = .ok text) :
    ∀ entry ∈ cases, ∃ seconds, Estimate.seconds entry.2.info.estimate = .ok seconds := by
  intro entry hentry
  obtain ⟨part, hin, text, htext⟩ := exists_rendered_section hcases h hentry
  obtain ⟨ordered, hordered, -⟩ := bind_eq_ok.mp htext
  obtain ⟨timed, htimed, -⟩ := bind_eq_ok.mp hordered
  have hmem : entry.2 ∈ Catalog.values part.cases := List.mem_map_of_mem hin
  obtain ⟨result, hresult⟩ := exists_ok_of_mapM htimed hmem
  rw [mapError_eq_ok] at hresult
  cases hseconds : Estimate.seconds entry.2.info.estimate with
  | error fault =>
    rw [hseconds] at hresult
    cases hresult
  | ok seconds => exact ⟨seconds, rfl⟩

/-- They fail as the protocol of a test case does, if not as an estimate. -/
theorem protocols_eq_error {fault : Fault} (hcases : ByIdentifier cases)
    (h : protocols options approval cases = .error fault) :
    (∃ trouble, fault = .estimate trouble) ∨
      ∃ entry ∈ cases, protocol options entry.2 = .error fault := by
  obtain ⟨⟨setup, group⟩, hgroup, h⟩ :=
    exists_error_of_mapM ((bind_eq_error.mp h).resolve_right fun ⟨_, _, h⟩ => pure_ne_error h)
  obtain ⟨part, hpart, h⟩ :=
    exists_error_of_mapM ((bind_eq_error.mp h).resolve_right fun ⟨_, _, h⟩ => pure_ne_error h)
  rcases bind_eq_error.mp h with h | ⟨ordered, hordered, h⟩
  · exact Or.inl (byDuration_eq_error h)
  obtain ⟨case, hcase, hprotocol⟩ :=
    exists_error_of_mapM ((bind_eq_error.mp h).resolve_right fun ⟨_, _, h⟩ => pure_ne_error h)
  obtain ⟨entry, hentry, rfl⟩ := List.mem_map.mp ((byDuration_perm hordered).mem_iff.mp hcase)
  have hin := ((hcases.split approval hgroup).sublist hpart).subset hentry
  obtain ⟨rfl, -⟩ := (mem_groups hcases.nodup).mp hgroup
  exact Or.inr ⟨entry, List.mem_of_mem_filter hin, hprotocol⟩

end Report

theorem Scanner.isTestCase_of_scanFile {scanner : Scanner} {disk : Disk} {file : Path} {term : Term}
    {result : FileResult} (h : scanner.scanFile disk file term = some result)
    (hidentifier : result.info.identifier ≠ "") : scanner.testCases.isTestCase result.path = true := by
  unfold scanFile visit at h
  split at h
  · dsimp only at h
    unfold scanText at h
    split at h
    · cases h
    · cases h
      by_contra hnot
      exact hidentifier (by simp [hnot])
  · cases h

namespace Trace

variable {scanner : Scanner} {disk : Disk} {root : Path} {depth : Nat} {term : Term}
  {journal : Journal} {cases : TestCase.Cases}

theorem isTestCase_of_keeps {result : FileResult} (h : Keeps (scanner.survey disk root) term result)
    (hidentifier : result.info.identifier ≠ "") : scanner.testCases.isTestCase result.path = true := by
  obtain ⟨results, records, hsurvey, -, hresult⟩ := h
  obtain ⟨scanned, hmem, -, rfl⟩ := Round.mem_classify hresult
  cases hfiles : scanner.files disk root with
  | error error =>
    rw [Scanner.survey_of_error hfiles] at hsurvey
    cases hsurvey
  | ok files =>
    rw [Scanner.survey_of_files hfiles, Except.ok.injEq] at hsurvey
    have hresults : results = (scanner.visitAll disk files term).1 := by rw [hsurvey]
    rw [hresults, Scanner.results_visitAll, List.mem_filterMap] at hmem
    obtain ⟨file, -, hscan⟩ := hmem
    have htestCase := Scanner.isTestCase_of_scanFile hscan hidentifier
    exact htestCase

theorem byIdentifier_of_found (h : (inTree scanner disk root depth term journal).1 = .ok cases) :
    Report.ByIdentifier cases ∧
      ∀ entry ∈ cases, scanner.testCases.isTestCase entry.2.path = true := by
  obtain ⟨journal', hrun⟩ := exists_journal_of_ok h
  obtain ⟨trail, hreturns, -⟩ := returns_of_run _ _ _ hrun
  have hcommitted (entry : String × TestCase) (hentry : entry ∈ cases) :=
    (hreturns.mem_cases hentry).resolve_left (by simp)
  refine ⟨⟨hreturns.nodup_keys List.nodup_nil, fun entry hentry => ?_⟩, fun entry hentry => ?_⟩
  · obtain ⟨result, -, -, rfl⟩ := hcommitted entry hentry
    rfl
  · obtain ⟨result, hresult, hidentifier, rfl⟩ := hcommitted entry hentry
    obtain ⟨scanned, -, hkeeps⟩ := hreturns.mem_committed.mp hresult
    exact isTestCase_of_keeps hkeeps hidentifier

/-- Test cases that are found are recognised again in a report, in which they begin at the directory;
so no report on them is lost over a script that lies outside, unless the name of the directory has a
backslash. With one, no script is recognised, and there is no report on anything found. -/
theorem found_recognised (scanner : Scanner) {options : Report.Options}
    (hdirectory : options.directory = scanner.testCases.layout.directory)
    (h : (inTree scanner disk root depth term journal).1 = .ok cases) (approval : Option Report.Approval) :
    (∀ path, scanner.testCases.isTestCase path = true → Report.Recognised options.directory path) ∧
      ('\\' ∉ options.directory.toList → ∀ directory path,
        Report.protocols options approval cases ≠ .error (.outside directory path)) ∧
      ('\\' ∈ options.directory.toList → cases ≠ [] → ∀ text,
        Report.protocols options approval cases ≠ .ok text) := by
  have hrecognised (path : String) (hpath : scanner.testCases.isTestCase path = true) :
      Report.Recognised options.directory path := by
    rw [hdirectory]
    exact Report.recognised_of_holds hpath
  obtain ⟨hcases, htestCases⟩ := byIdentifier_of_found h
  refine ⟨hrecognised, fun hplain directory path herror => ?_, fun hbackslash hne text hok => ?_⟩
  · rcases Report.protocols_eq_error hcases herror with ⟨trouble, htrouble⟩ | ⟨entry, hentry, hprotocol⟩
    · cases htrouble
    · have hscript := Report.outside_of_protocol hprotocol (by simp)
      obtain ⟨script, hok, -⟩ := (hrecognised _ (htestCases entry hentry)).script hplain
      rw [hok] at hscript
      cases hscript
  · obtain ⟨entry, hentry⟩ := List.exists_mem_of_ne_nil _ hne
    obtain ⟨protocol, hprotocol⟩ := Report.exists_protocol_of_protocols hcases hok entry hentry
    obtain ⟨script, hscript⟩ := Report.scriptPath_of_protocol hprotocol
    rw [(hrecognised _ (htestCases entry hentry)).outside hbackslash] at hscript
    cases hscript

theorem sample_recognised :
    (inTree Sample.scanner Sample.tree Sample.root 2 (.literal "x") {}).1 = .ok Sample.found ∧
      ∀ directory path, Report.protocols {} none Sample.found ≠ .error (.outside directory path) := by
  have hfound : (inTree Sample.scanner Sample.tree Sample.root 2 (.literal "x") {}).1 =
      .ok Sample.found := by
    rw [inTree, Sample.survey_eq]
    exact ok_of_toOption (by decide +kernel)
  have hdirectory : ({} : Report.Options).directory = Sample.scanner.testCases.layout.directory := by
    decide +kernel
  obtain ⟨-, hplain, -⟩ := found_recognised Sample.scanner hdirectory hfound none
  exact ⟨hfound, hplain (by decide)⟩

/-- A test case in a directory with a backslash in its name is recognised, but its script is not. -/
theorem backslash_hides_script :
    TestCase.Layout.holds ⟨"a\\b", "test_", ".py"⟩ "r/a\\b/g/test_t.py" = true ∧
      Report.scriptPath "a\\b" "r/a\\b/g/test_t.py" =
        .error (.outside "a\\b" "r/a\\b/g/test_t.py") := by
  decide +kernel

end Trace
end TestReach
