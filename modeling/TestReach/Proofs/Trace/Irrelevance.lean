import TestReach.Proofs.Trace.Repeats

namespace TestReach

/-- A path leads to the same entry in two trees, or to none in both, and reads the same. -/
structure Disk.AgreesAt (disk disk' : Disk) (path : Path) : Prop where
  found : disk.found? path = disk'.found? path
  read : disk.readLenient path = disk'.readLenient path

namespace Scanner

variable {scanner : Scanner} {disk disk' : Disk} {root path : Path} {term : Term} {terms : List Term}

/-- A path matters to scans for some terms: it is listed, and what it reads has a match. -/
structure Matters (scanner : Scanner) (disk : Disk) (root : Path) (terms : List Term) (path : Path) :
    Prop where
  listed : ∃ files, scanner.files disk root = .ok files ∧ path ∈ files
  found : ∃ source, disk.readLenient path = .ok source ∧ ∃ term ∈ terms, term.findAll source ≠ []

theorem scanFile_congr (h : disk.readLenient path = disk'.readLenient path) :
    scanner.scanFile disk path term = scanner.scanFile disk' path term := by
  simp only [scanFile, visit, h]

theorem matters_of_scanFile {files : List Path} (hfiles : scanner.files disk root = .ok files)
    (hpath : path ∈ files) (hterm : term ∈ terms)
    (h : (scanner.scanFile disk path term).isSome = true) :
    scanner.Matters disk root terms path := by
  refine ⟨⟨files, hfiles, hpath⟩, ?_⟩
  unfold scanFile visit at h
  split at h
  · rename_i source hread
    refine ⟨source, hread, term, hterm, fun hnone => ?_⟩
    simp [scanText, hnone] at h
  · cases h

end Scanner

namespace Trace

variable {survey survey' : Survey} {live : Journal → Survey} {depth : Nat} {term : Term}
  {terms : List Term}

/-- Surveys that give the same results for some terms, whatever they log. -/
def AgreeOn (survey survey' : Survey) (terms : List Term) : Prop :=
  ∀ term ∈ terms, (survey term).map (·.1) = (survey' term).map (·.1)

/-- Journals that are the same but for what is logged. -/
structure Journal.Alike (journal journal' : Journal) : Prop where
  claimed : journal.claimed = journal'.claimed
  scanned : journal.scanned = journal'.scanned
  committed : journal.committed = journal'.committed

structure AlikeOutcomes (outcome outcome' : Outcome) : Prop where
  result : outcome.1 = outcome'.1
  journal : outcome.2.Alike outcome'.2

theorem Journal.Alike.refl (journal : Journal) : journal.Alike journal :=
  ⟨rfl, rfl, rfl⟩

section Steps

variable {journal journal' : Journal} (h : journal.Alike journal')

include h

theorem Journal.Alike.note (level level' : Log.Level) (message message' : String) :
    (journal.note level message).Alike (journal'.note level' message') :=
  ⟨h.claimed, h.scanned, h.committed⟩

theorem Journal.Alike.begun (term : Term) (depth : Nat) :
    (journal.begun term depth).Alike (journal'.begun term depth) := by
  refine ⟨h.claimed, ?_, h.committed⟩
  simp only [Journal.begun, h.scanned]

theorem Journal.Alike.logged (records records' : List Log.Record) :
    (journal.logged records).Alike (journal'.logged records') :=
  ⟨h.claimed, h.scanned, h.committed⟩

theorem Journal.Alike.commits (term : Term) (results : List FileResult) (cases others : Nat) :
    (journal.commits term results cases others).Alike
      (journal'.commits term results cases others) := by
  refine ⟨h.claimed, h.scanned, ?_⟩
  simp only [Journal.commits, Journal.note, h.committed]

theorem Journal.Alike.extended (term next : Term) :
    ((journal.adding next.text).extended term next).Alike
      ((journal'.adding next.text).extended term next) := by
  refine ⟨?_, h.scanned, h.committed⟩
  simp only [Journal.extended, Journal.adding, Journal.note, h.claimed]

end Steps

theorem scanned_subset_follow (survey : Survey) (depth : Nat) (term : Term) (uses : List Match)
    (found : TestCase.Cases) (journal : Journal) :
    journal.scanned ⊆ (follow (run survey depth) term found uses journal).2.scanned := by
  obtain ⟨trail, hadds, -⟩ := exists_trail_of_follow
    (fun next journal => exists_trail_of_run survey depth next journal) term uses found journal
  rw [hadds.scanned]
  exact List.subset_append_left _ _

theorem AgreeOn.mono {more : List Term} (h : AgreeOn survey survey' more) (hterms : terms ⊆ more) :
    AgreeOn survey survey' terms :=
  fun term hterm => h term (hterms hterm)

/-- Where surveys agree, both fail in the same way or both find the same. -/
theorem AgreeOn.scan (h : AgreeOn survey survey' terms) (hterm : term ∈ terms) :
    (∃ error, survey term = .error error ∧ survey' term = .error error) ∨
      ∃ results records records',
        survey term = .ok (results, records) ∧ survey' term = .ok (results, records') := by
  have hsame := h term hterm
  cases hsurvey : survey term with
  | error error =>
    rw [hsurvey] at hsame
    cases hsurvey' : survey' term with
    | error error' =>
      rw [hsurvey'] at hsame
      cases hsame
      exact Or.inl ⟨error, rfl, rfl⟩
    | ok scan =>
      rw [hsurvey'] at hsame
      cases hsame
  | ok scan =>
    rw [hsurvey] at hsame
    cases hsurvey' : survey' term with
    | error error =>
      rw [hsurvey'] at hsame
      cases hsame
    | ok scan' =>
      rw [hsurvey'] at hsame
      obtain ⟨results, records⟩ := scan
      obtain ⟨_, records'⟩ := scan'
      cases hsame
      exact Or.inr ⟨results, records, records', rfl, rfl⟩

theorem follow_alike
    (htrace : ∀ next (journal journal' : Journal), journal.Alike journal' →
      (∀ seen, AgreeOn survey (live seen) (run survey depth next journal).2.scanned) →
      AlikeOutcomes (run survey depth next journal) (runLive live depth next journal'))
    (term : Term) (uses : List Match) (found : TestCase.Cases) {journal journal' : Journal}
    (h : journal.Alike journal')
    (hagree : ∀ seen, AgreeOn survey (live seen)
      (follow (run survey depth) term found uses journal).2.scanned) :
    AlikeOutcomes (follow (run survey depth) term found uses journal)
      (follow (runLive live depth) term found uses journal') := by
  induction uses generalizing found journal journal' with
  | nil => exact ⟨rfl, h⟩
  | cons m rest ih =>
    by_cases hroutine : m.routine = ""
    · simp only [follow_cons, if_pos hroutine] at hagree ⊢
      exact ih found (h.note _ _ _ _) hagree
    cases hnext : Term.wholeWord? m.routine with
    | error error =>
      simp only [follow_cons, if_neg hroutine, hnext]
      exact ⟨rfl, h⟩
    | ok next =>
      by_cases hknown : next.text ∈ journal.claimed
      · have hknown' : next.text ∈ journal'.claimed := h.claimed ▸ hknown
        simp only [follow_cons, if_neg hroutine, hnext, if_pos hknown, if_pos hknown'] at hagree ⊢
        exact ih found h hagree
      -- The name is new in both runs, for they have claimed the same.
      have hknown' : next.text ∉ journal'.claimed := h.claimed ▸ hknown
      simp only [follow_cons, if_neg hroutine, hnext, if_neg hknown, if_neg hknown'] at hagree ⊢
      have hfirst := htrace next _ _ (h.extended term next)
      revert hfirst hagree
      rcases run survey depth next ((journal.adding next.text).extended term next) with ⟨result, middle⟩
      rcases runLive live depth next ((journal'.adding next.text).extended term next) with ⟨result', middle'⟩
      intro hagree hfirst
      -- The hypothesis on the terms of the whole run covers those of its first trace.
      cases result with
      | error error =>
        obtain ⟨hresult, hmiddle⟩ := hfirst hagree
        cases hresult
        exact ⟨rfl, hmiddle⟩
      | ok more =>
        obtain ⟨hresult, hmiddle⟩ := hfirst fun seen =>
          (hagree seen).mono (scanned_subset_follow _ _ _ _ _ _)
        cases hresult
        exact ih (found.merge more) hmiddle hagree

theorem mem_scanned_run (survey : Survey) (depth : Nat) (term : Term) (journal : Journal) :
    term ∈ (run survey (depth + 1) term journal).2.scanned := by
  have hbegun : term ∈ (journal.begun term (depth + 1)).scanned := by simp [Journal.begun]
  rw [run_succ]
  split
  · exact hbegun
  rename_i results records hsurvey
  dsimp only
  split
  · exact hbegun
  have hfollow := scanned_subset_follow survey depth term
    (usesOf (Round.classify results).results) []
    (((journal.begun term (depth + 1)).logged records).commits term (Round.classify results).results
      (casesOf (Round.classify results).results).length
      (othersOf (Round.classify results).results).length) hbegun
  split
  all_goals
    rename_i hmore
    rwa [hmore] at hfollow

/-- Where a scan agrees on what the first run scans for, whatever it sees in the journal, the second
run keeps in step with the first. -/
theorem runLive_alike (depth : Nat) (term : Term) {journal journal' : Journal}
    (h : journal.Alike journal')
    (hagree : ∀ seen, AgreeOn survey (live seen) (run survey depth term journal).2.scanned) :
    AlikeOutcomes (run survey depth term journal) (runLive live depth term journal') := by
  induction depth generalizing term journal journal' with
  | zero => exact ⟨rfl, h⟩
  | succ depth ih =>
    have hbegun := h.begun term (depth + 1)
    rcases (hagree (journal'.begun term (depth + 1))).scan (mem_scanned_run survey depth term journal)
      with ⟨error, hsurvey, hlive⟩ | ⟨results, records, records', hsurvey, hlive⟩
    · simp only [run_succ, runLive, hsurvey, hlive]
      exact ⟨rfl, hbegun⟩
    simp only [run_succ, runLive, hsurvey, hlive] at hagree ⊢
    have hscan := hbegun.logged records records'
    by_cases hround : (Round.classify results).decision = .ambiguous
    · simp only [if_pos hround]
      exact ⟨rfl, hscan.note _ _ _ _⟩
    simp only [if_neg hround] at hagree ⊢
    have hcommits := hscan.commits term (Round.classify results).results
      (casesOf (Round.classify results).results).length
      (othersOf (Round.classify results).results).length
    have hfollow := follow_alike (fun next _ _ => ih next) term
      (usesOf (Round.classify results).results) [] hcommits
    revert hfollow hagree
    rcases follow (run survey depth) _ _ _ _ with ⟨result, last⟩
    rcases follow (runLive live depth) _ _ _ _ with ⟨result', last'⟩
    intro hagree hfollow
    -- However the uses have been followed, the round adds only what it found itself.
    cases result with
    | error error =>
      obtain ⟨hresult, hlast⟩ := hfollow hagree
      cases hresult
      exact ⟨rfl, hlast⟩
    | ok more =>
      obtain ⟨hresult, hlast⟩ := hfollow hagree
      cases hresult
      exact ⟨rfl, hlast⟩

end Trace

namespace Scanner

variable {scanner : Scanner} {disk disk' : Disk} {root path : Path} {term : Term} {terms : List Term}

/-- Where two trees do not agree, nothing matters to scans for some terms. -/
def Irrelevant (scanner : Scanner) (disk disk' : Disk) (root : Path) (terms : List Term) : Prop :=
  ∀ path, ¬ disk.AgreesAt disk' path →
    ¬ scanner.Matters disk root terms path ∧ ¬ scanner.Matters disk' root terms path

theorem agreeOn_of_irrelevant (hplain : disk.Plain) (hplain' : disk'.Plain)
    (hroot : disk.isDirectory root = true) (hroot' : disk'.isDirectory root = true)
    (h : scanner.Irrelevant disk disk' root terms) :
    Trace.AgreeOn (scanner.survey disk root) (scanner.survey disk' root) terms := by
  intro term hterm
  cases hsteps : SourceFiles.steps scanner.fileType with
  | error error =>
    have hfailed : scanner.files disk root = .error error := by
      rw [files, SourceFiles.list_of_isDirectory hroot, hsteps, Except.map]
    have hfailed' : scanner.files disk' root = .error error := by
      rw [files, SourceFiles.list_of_isDirectory hroot', hsteps, Except.map]
    rw [survey_of_error hfailed, survey_of_error hfailed']
  | ok wanted =>
    have hlisted : scanner.files disk root =
        .ok (SourceFiles.listed disk root scanner.fileType scanner.markers wanted) := by
      rw [files, SourceFiles.list_of_isDirectory hroot, hsteps, Except.map]
    have hlisted' : scanner.files disk' root =
        .ok (SourceFiles.listed disk' root scanner.fileType scanner.markers wanted) := by
      rw [files, SourceFiles.list_of_isDirectory hroot', hsteps, Except.map]
    rw [survey_of_files hlisted, survey_of_files hlisted']
    simp only [Except.map, results_visitAll, Except.ok.injEq]
    -- A path that gives a result in either tree matters there, so the trees agree at it.
    apply SourceFiles.filterMap_listed_congr hplain hplain' hroot hroot'
    · intro path hpath hsome
      have hagrees : disk.AgreesAt disk' path := by
        by_contra hnot
        exact (h path hnot).1 (matters_of_scanFile hlisted hpath hterm hsome)
      exact ⟨hagrees.found, scanFile_congr hagrees.read⟩
    · intro path hpath hsome
      have hagrees : disk.AgreesAt disk' path := by
        by_contra hnot
        exact (h path hnot).2 (matters_of_scanFile hlisted' hpath hterm hsome)
      exact ⟨hagrees.found, scanFile_congr hagrees.read⟩

end Scanner

namespace Trace

/-- Trees that differ in irrelevant files alone are traced in the same way, whatever has been claimed
before: the same terms are scanned for, the same results committed and the same texts claimed, and the
same test cases are found or the same failure ends the trace. -/
theorem irrelevant_files_change_nothing (scanner : Scanner) {disk disk' : Disk} {root : Path}
    (hplain : disk.Plain) (hplain' : disk'.Plain) (hroot : disk.isDirectory root = true)
    (hroot' : disk'.isDirectory root = true) (depth : Nat) (term : Term) (claimed : List String)
    {outcome outcome' : Outcome} (h : inTree scanner disk root depth term { claimed } = outcome)
    (h' : inTree scanner disk' root depth term { claimed } = outcome')
    (hirrelevant : scanner.Irrelevant disk disk' root outcome.2.scanned) :
    outcome'.2.scanned = outcome.2.scanned ∧ outcome'.2.committed = outcome.2.committed ∧
      outcome'.2.claimed = outcome.2.claimed ∧ outcome'.1 = outcome.1 := by
  have hagree := Scanner.agreeOn_of_irrelevant hplain hplain' hroot hroot' hirrelevant
  unfold inTree at h h'
  subst h h'
  obtain ⟨hresult, hjournal⟩ := runLive_alike depth term (Journal.Alike.refl _) fun _ => hagree
  exact ⟨hjournal.scanned.symm, hjournal.committed.symm, hjournal.claimed.symm, hresult.symm⟩

end Trace

namespace Sample

/-- The sample with a generated file and one of another type, a file that cannot be read and one
without a match. -/
def crowdedTree : Disk where
  entries :=
    [(["r"], .directory),
      (["r", "a.py"], .file "def a():\n x\n".toUTF8.toList),
      (["r", "b.py"], .file "def b():\n a()\n".toUTF8.toList),
      (["r", "c.py"], .file "def c():\n b()\n x\n".toUTF8.toList),
      (["r", "d.py"], .file "def d():\n e()\n".toUTF8.toList),
      (["r", "d_pb2.py"], .file "def a():\n x\n".toUTF8.toList),
      (["r", "notes.txt"], .file "def a():\n x\n".toUTF8.toList),
      (["r", "secret.py"], .file "def a():\n x\n".toUTF8.toList),
      (["r", "test_cases"], .directory),
      (["r", "test_cases", "g"], .directory),
      (["r", "test_cases", "g", "test_t.py"], .file "Polarion ID: P-1\nc()\n".toUTF8.toList)]
  unreadable := ["r/secret.py"]

def crowdedFiles : List Path :=
  [⟨"", ["r", "a.py"]⟩, ⟨"", ["r", "b.py"]⟩, ⟨"", ["r", "c.py"]⟩, ⟨"", ["r", "d.py"]⟩,
    ⟨"", ["r", "secret.py"]⟩, ⟨"", ["r", "test_cases", "g", "test_t.py"]⟩]

theorem crowded_files : scanner.files crowdedTree root = .ok crowdedFiles := by
  have hselect : SourceFiles.select crowdedTree false
      [.below, .like (Glob.pieces ['*', '.', 'p', 'y'])] root =
      [⟨"", ["r", "a.py"]⟩, ⟨"", ["r", "b.py"]⟩, ⟨"", ["r", "c.py"]⟩, ⟨"", ["r", "d.py"]⟩,
        ⟨"", ["r", "d_pb2.py"]⟩, ⟨"", ["r", "secret.py"]⟩,
        ⟨"", ["r", "test_cases", "g", "test_t.py"]⟩] := by decide +kernel
  rw [files_of_select (by decide +kernel) hselect (by decide +kernel)]
  exact congrArg Except.ok (by decide +kernel)

theorem agreesAt_of_mem_files : ∀ path ∈ files, tree.AgreesAt crowdedTree path := by
  have hagree : ∀ path ∈ files, tree.found? path = crowdedTree.found? path ∧
      tree.readLenient path = crowdedTree.readLenient path := by decide +kernel
  exact fun path hpath => ⟨(hagree path hpath).1, (hagree path hpath).2⟩

theorem mem_crowdedFiles {path : Path} (h : path ∈ crowdedFiles) :
    path ∈ files ∨ path = ⟨"", ["r", "d.py"]⟩ ∨ path = ⟨"", ["r", "secret.py"]⟩ := by
  revert path
  decide +kernel

theorem tree_plain : tree.Plain := by
  unfold Disk.Plain
  decide +kernel

theorem crowdedTree_plain : crowdedTree.Plain := by
  unfold Disk.Plain
  decide +kernel

/-- What is in the crowded tree besides the sample plays no part in scans for terms that the text of
`d` does not match. -/
theorem crowded_irrelevant {terms : List Term}
    (hterms : ∀ term ∈ terms, term.findAll "def d():\n e()\n" = []) :
    scanner.Irrelevant tree crowdedTree root terms := by
  intro path hnot
  constructor
  · rintro ⟨⟨listed, hlisted, hpath⟩, -⟩
    obtain rfl : files = listed := Except.ok.inj (files_eq.symm.trans hlisted)
    exact hnot (agreesAt_of_mem_files path hpath)
  · rintro ⟨⟨listed, hlisted, hpath⟩, source, hread, term, hterm, hfound⟩
    obtain rfl : crowdedFiles = listed := Except.ok.inj (crowded_files.symm.trans hlisted)
    rcases mem_crowdedFiles hpath with hpath | rfl | rfl
    · exact hnot (agreesAt_of_mem_files path hpath)
    · have htext : crowdedTree.readLenient ⟨"", ["r", "d.py"]⟩ = .ok "def d():\n e()\n" := by
        decide +kernel
      obtain rfl : source = "def d():\n e()\n" := Except.ok.inj (hread.symm.trans htext)
      exact hfound (hterms term hterm)
    · have hsecret : crowdedTree.readLenient ⟨"", ["r", "secret.py"]⟩ =
          .error .permissionDenied := by
        decide +kernel
      rw [hsecret] at hread
      cases hread

end Sample

namespace Trace

theorem sample_crowded_alike : ∃ outcome outcome',
    inTree Sample.scanner Sample.tree Sample.root 2 (.literal "x") {} = outcome ∧
    inTree Sample.scanner Sample.crowdedTree Sample.root 2 (.literal "x") {} = outcome' ∧
    Sample.tree.Plain ∧ Sample.crowdedTree.Plain ∧
    Sample.scanner.Irrelevant Sample.tree Sample.crowdedTree Sample.root outcome.2.scanned ∧
    outcome'.2.scanned = outcome.2.scanned ∧ outcome'.2.committed = outcome.2.committed ∧
    outcome'.2.claimed = outcome.2.claimed ∧ outcome'.1 = .ok Sample.found := by
  obtain ⟨journal, hrun⟩ := sample_trace_two
  obtain ⟨outcome', hrun'⟩ : ∃ outcome', inTree Sample.scanner Sample.crowdedTree Sample.root 2
      (.literal "x") {} = outcome' := ⟨_, rfl⟩
  have hterms : ∀ term ∈
      (inTree Sample.scanner Sample.tree Sample.root 2 (.literal "x") {}).2.scanned,
      term.findAll "def d():\n e()\n" = [] := by
    rw [inTree, Sample.survey_eq]
    decide +kernel
  rw [hrun] at hterms
  have hirrelevant := Sample.crowded_irrelevant hterms
  obtain ⟨hscanned, hcommitted, hclaimed, hresult⟩ := irrelevant_files_change_nothing Sample.scanner
    Sample.tree_plain Sample.crowdedTree_plain (by decide +kernel) (by decide +kernel) 2
    (.literal "x") [] hrun hrun' hirrelevant
  exact ⟨_, outcome', hrun, hrun', Sample.tree_plain, Sample.crowdedTree_plain, hirrelevant,
    hscanned, hcommitted, hclaimed, hresult⟩

end Trace
end TestReach
