import Mathlib.Data.List.Nodup
import TestReach.Proofs.Round
import TestReach.Proofs.Scan

namespace TestReach

def Match.place (m : Match) : String × Nat := (m.path, m.line)

def OnTwoLines (hits : List Match) : Prop :=
  ∃ m ∈ hits, ∃ m' ∈ hits, m.place ≠ m'.place

def TwiceOnALine (hits : List Match) : Prop :=
  ∃ place, 2 ≤ (hits.map Match.place).count place

theorem two_le_length_iff {hits : List Match} :
    2 ≤ hits.length ↔ OnTwoLines hits ∨ TwiceOnALine hits := by
  constructor
  · intro h
    match hits, h with
    | m :: m' :: rest, _ =>
      by_cases hplace : m.place = m'.place
      · refine Or.inr ⟨m.place, ?_⟩
        simp [hplace]
      · exact Or.inl ⟨m, by simp, m', by simp, hplace⟩
  · rintro (⟨m, hm, m', hm', hplace⟩ | ⟨place, htwice⟩)
    · by_contra hfew
      -- The only match would stand on two lines.
      obtain ⟨only, rfl⟩ := List.length_eq_one_iff.mp
        (show hits.length = 1 by have := List.length_pos_of_mem hm; omega)
      rw [List.mem_singleton.mp hm, List.mem_singleton.mp hm'] at hplace
      exact hplace rfl
    · have hcount : (hits.map Match.place).count place ≤ (hits.map Match.place).length :=
        List.count_le_length
      rw [List.length_map] at hcount
      omega

namespace Sample

def recursiveTree : Disk where
  entries :=
    [(["r"], .directory),
      (["r", "a.py"], .file "def f(n): return f(n - 1)\n".toUTF8.toList)]

def recursiveTerm : Term :=
  (Term.wholeWord? "f").toOption.get (by decide +kernel)

def recursiveFiles : List Path := [⟨"", ["r", "a.py"]⟩]

def recursiveResults : List FileResult :=
  (scanner.visitAll recursiveTree recursiveFiles recursiveTerm).1

theorem recursive_files : scanner.files recursiveTree root = .ok recursiveFiles := by
  have hselect : SourceFiles.select recursiveTree false
      [.below, .like (Glob.pieces ['*', '.', 'p', 'y'])] root = recursiveFiles := by decide +kernel
  rw [files_of_select (by decide +kernel) hselect (List.pairwise_singleton _ _)]
  exact congrArg Except.ok (by decide +kernel)

theorem recursive_scan : scanner.scan recursiveTree root recursiveTerm = .ok recursiveResults := by
  rw [Scanner.scan, Scanner.survey_of_files recursive_files]
  rfl

theorem recursive_places :
    (declarationsOf recursiveResults).map Match.place = [("r/a.py", 1), ("r/a.py", 1)] := by
  decide +kernel

theorem recursive_not_onTwoLines : ¬ OnTwoLines (declarationsOf recursiveResults) := by
  have hplace (m : Match) (hm : m ∈ declarationsOf recursiveResults) : m.place = ("r/a.py", 1) := by
    have hmem := List.mem_map_of_mem (f := Match.place) hm
    rw [recursive_places] at hmem
    simpa using hmem
  rintro ⟨m, hm, m', hm', hne⟩
  exact hne ((hplace m hm).trans (hplace m' hm').symm)

end Sample

namespace Scanner

/-- A round is ambiguous just when matches of the term stand on two declaration lines, or one
declaration line holds two of them. Where no line holds two, different lines alone decide. -/
theorem ambiguous_iff_lines (scanner : Scanner) (disk : Disk) (root : Path) (term : Term)
    {results : List FileResult} (h : scanner.scan disk root term = .ok results) :
    (∃ files, scanner.files disk root = .ok files ∧ declarationsOf results =
      (files.flatMap (scanner.hitsIn disk term)).filter (·.isDeclaration)) ∧
    ((Round.classify results).decision = .ambiguous ↔
      OnTwoLines (declarationsOf results) ∨ TwiceOnALine (declarationsOf results)) ∧
    (((declarationsOf results).map Match.place).Nodup →
      ((Round.classify results).decision = .ambiguous ↔ OnTwoLines (declarationsOf results))) := by
  have hdecision : (Round.classify results).decision = .ambiguous ↔
      OnTwoLines (declarationsOf results) ∨ TwiceOnALine (declarationsOf results) := by
    rw [Round.decision_classify, Decision.ofCount_eq_ambiguous, two_le_length_iff]
  refine ⟨?_, hdecision, ?_⟩
  · cases hfiles : scanner.files disk root with
    | error error =>
      rw [scan, survey_of_error hfiles] at h
      cases h
    | ok files =>
      rw [scan, survey_of_files hfiles] at h
      have hresults : (scanner.visitAll disk files term).1 = results := Except.ok.inj h
      exact ⟨files, rfl, by rw [← hits_visitAll, hresults, declarationsOf, List.filter_flatMap]⟩
  · intro hnodup
    rw [hdecision, or_iff_left]
    rintro ⟨place, htwice⟩
    have honce := List.nodup_iff_count_le_one.mp hnodup place
    omega

end Scanner

/-- One line that declares a routine is enough to discard the round. -/
theorem one_line_is_ambiguous :
    ¬ ∀ (scanner : Scanner) (disk : Disk) (root : Path) (term : Term) (results : List FileResult),
      scanner.scan disk root term = .ok results →
      ((Round.classify results).decision = .ambiguous ↔ OnTwoLines (declarationsOf results)) := by
  intro h
  have hiff := h _ _ _ _ _ Sample.recursive_scan
  have hcount := congrArg List.length Sample.recursive_places
  rw [List.length_map] at hcount
  rw [Round.decision_classify, hcount] at hiff
  exact Sample.recursive_not_onTwoLines (hiff.mp rfl)

/-- The round is ambiguous for the line that holds both matches. -/
theorem sample_line_twice : ∃ results,
    Sample.scanner.scan Sample.recursiveTree Sample.root Sample.recursiveTerm = .ok results ∧
    (Round.classify results).decision = .ambiguous ∧ ¬ OnTwoLines (declarationsOf results) ∧
      TwiceOnALine (declarationsOf results) := by
  obtain ⟨-, hdecision, -⟩ := Scanner.ambiguous_iff_lines _ _ _ _ Sample.recursive_scan
  have htwice : TwiceOnALine (declarationsOf Sample.recursiveResults) :=
    ⟨("r/a.py", 1), by rw [Sample.recursive_places]; decide⟩
  exact ⟨_, Sample.recursive_scan, hdecision.mpr (Or.inr htwice), Sample.recursive_not_onTwoLines,
    htwice⟩

end TestReach
