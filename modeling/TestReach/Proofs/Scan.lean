import Mathlib.Data.List.Forall2
import Mathlib.Data.List.Infix
import TestReach.Proofs.Declaration
import TestReach.Proofs.SourceFiles
import TestReach.Settings

namespace TestReach

namespace Scanner

variable {scanner : Scanner} {disk : Disk} {root : Path} {files : List Path}

theorem survey_of_files (h : scanner.files disk root = .ok files) :
    scanner.survey disk root = fun term => .ok (scanner.visitAll disk files term) := by
  funext term
  rw [survey, surveyLive, h]
  rfl

theorem survey_of_error {error : SourceFiles.ListError} (h : scanner.files disk root = .error error) :
    scanner.survey disk root = fun _ => .error error := by
  funext term
  rw [survey, surveyLive, h]
  rfl

def routines (scanner : Scanner) (disk : Disk) (files : List Path) : List String :=
  files.flatMap fun path =>
    match disk.readLenient path with
    | .ok source => source.toList.inits.map scanner.declarations.enclosing
    | .error _ => []

variable {file : Path} {term : Term} {m : Match}

/-- All matches of a term in a file; a file that cannot be read has none. -/
def hitsIn (scanner : Scanner) (disk : Disk) (term : Term) (file : Path) : List Match :=
  match disk.readLenient file with
  | .ok source => (term.findAll source).map (scanner.hit file.toString source)
  | .error _ => []

theorem mem_hitsIn : m ∈ scanner.hitsIn disk term file ↔
    ∃ source, disk.readLenient file = .ok source ∧
      ∃ span ∈ term.findAll source, m = scanner.hit file.toString source span := by
  unfold hitsIn
  cases disk.readLenient file with
  | error trouble => simp
  | ok source => simp [eq_comm]

/-- A file without matches has no result, and one with matches has them all. -/
theorem hits_visit (scanner : Scanner) (disk : Disk) (term : Term) (file : Path) :
    (scanner.visit disk file term).1.toList.flatMap (·.hits) = scanner.hitsIn disk term file := by
  unfold visit hitsIn
  cases disk.readLenient file with
  | error trouble => rfl
  | ok source =>
    dsimp only
    unfold scanText
    split
    · rename_i hnone
      exact hnone.symm
    · simp

variable {live : List Log.Record → Disk} {visit visit' : Visit} {visits : List Visit}
  {result : Option FileResult} {results : List (Option FileResult)} {log : List Log.Record}

/-- The visit of a file has this result, whatever is logged before the file is read. -/
def ComesTo (scanner : Scanner) (live : List Log.Record → Disk) (term : Term) :
    Visit → Option FileResult → Prop
  | .waiting path, result => ∀ log, scanner.scanFile (live log) path term = result
  | .read found _, result => found = result

theorem ComesTo.step (h : scanner.ComesTo live term visit result) (log : List Log.Record) :
    scanner.ComesTo live term (scanner.step live term log visit).1 result := by
  cases visit with
  | waiting path => exact h log
  | read found records => cases records <;> exact h

theorem ComesTo.finish (h : scanner.ComesTo live term visit result) (log : List Log.Record) :
    (scanner.finish live term log visit).1 = result := by
  cases visit with
  | waiting path => exact h log
  | read found records => exact h

theorem forall_comesTo_set (h : List.Forall₂ (scanner.ComesTo live term) visits results) {turn : Nat}
    (hvisit : visits[turn]? = some visit) (hnext : ∀ result, scanner.ComesTo live term visit result →
      scanner.ComesTo live term visit' result) :
    List.Forall₂ (scanner.ComesTo live term) (visits.set turn visit') results := by
  induction h generalizing turn with
  | nil => exact .nil
  | cons hfirst hrest ih =>
    cases turn with
    | zero =>
      obtain rfl := Option.some.inj hvisit
      exact .cons (hnext _ hfirst) hrest
    | succ turn => exact .cons hfirst (ih hvisit)

theorem forall_comesTo_takeTurn {state : List Visit × List Log.Record}
    (h : List.Forall₂ (scanner.ComesTo live term) state.1 results) (turn : Nat) :
    List.Forall₂ (scanner.ComesTo live term) (scanner.takeTurn live term state turn).1 results := by
  unfold takeTurn
  split
  · rename_i visit hvisit
    exact forall_comesTo_set h hvisit fun _ hvisit => hvisit.step state.2
  · exact h

theorem results_finishAll (h : List.Forall₂ (scanner.ComesTo live term) visits results) :
    (scanner.finishAll live term visits log).1 = results.filterMap id := by
  induction h generalizing log with
  | nil => rfl
  | @cons visit result visits results hfirst _ ih =>
    rw [finishAll]
    dsimp only
    rw [hfirst.finish log, ih]
    cases result <;> rfl

/-- Where records leave what is scanned as it is, the workers find what there is in the files, in the
order of the files, whatever turns they take. -/
theorem results_visitAllLive (turns : List Nat)
    (h : ∀ path ∈ files, ∀ log, scanner.scanFile (live log) path term =
      scanner.scanFile disk path term) :
    (scanner.visitAllLive live turns files term).1 =
      files.filterMap (scanner.scanFile disk · term) := by
  -- A turn keeps what all visits come to, so that nothing depends on the order of turns.
  have hturns (state : List Visit × List Log.Record)
      (hstate : List.Forall₂ (scanner.ComesTo live term) state.1
        (files.map (scanner.scanFile disk · term))) :
      List.Forall₂ (scanner.ComesTo live term) (turns.foldl (scanner.takeTurn live term) state).1
        (files.map (scanner.scanFile disk · term)) := by
    induction turns generalizing state with
    | nil => exact hstate
    | cons turn turns ih => exact ih _ (forall_comesTo_takeTurn hstate turn)
  have hwaiting : List.Forall₂ (scanner.ComesTo live term) (files.map .waiting)
      (files.map (scanner.scanFile disk · term)) := by
    rw [List.forall₂_map_left_iff, List.forall₂_map_right_iff]
    exact List.forall₂_same.mpr h
  rw [visitAllLive]
  dsimp only
  rw [results_finishAll (hturns _ hwaiting), List.filterMap_map]
  rfl

theorem results_visitAll (scanner : Scanner) (disk : Disk) (files : List Path) (term : Term) :
    (scanner.visitAll disk files term).1 = files.filterMap (scanner.scanFile disk · term) :=
  results_visitAllLive [] fun _ _ _ => rfl

theorem hits_visitAll (scanner : Scanner) (disk : Disk) (files : List Path) (term : Term) :
    (scanner.visitAll disk files term).1.flatMap (·.hits) =
      files.flatMap (scanner.hitsIn disk term) := by
  rw [results_visitAll]
  induction files with
  | nil => rfl
  | cons file rest ih =>
    rw [List.flatMap_cons, ← ih, ← hits_visit, ← scanFile]
    cases hscan : scanner.scanFile disk file term with
    | none => simp [hscan]
    | some result => simp [hscan]

theorem path_of_scanFile {result : FileResult} (h : scanner.scanFile disk file term = some result) :
    result.path = file.toString := by
  unfold scanFile visit at h
  split at h
  · dsimp only at h
    unfold scanText at h
    split at h
    · cases h
    · cases h
      rfl
  · cases h

theorem paths_visitAll (scanner : Scanner) (disk : Disk) (files : List Path) (term : Term) :
    ((scanner.visitAll disk files term).1.map (·.path)).Sublist (files.map Path.toString) := by
  rw [results_visitAll]
  induction files with
  | nil => exact .refl _
  | cons file rest ih =>
    cases hscan : scanner.scanFile disk file term with
    | none =>
      rw [List.filterMap_cons, hscan]
      exact ih.cons _
    | some result =>
      rw [List.filterMap_cons, hscan, List.map_cons, List.map_cons, path_of_scanFile hscan]
      exact ih.cons_cons _

/-- `m` is a match of `term` in `file`, a source file below `root` that reads `source`. -/
structure Finds (scanner : Scanner) (disk : Disk) (root : Path) (term : Term) (file : Path)
    (source : String) (m : Match) : Prop where
  listed : ∃ files, scanner.files disk root = .ok files ∧ file ∈ files
  read : disk.readLenient file = .ok source
  hit : ∃ span ∈ term.findAll source, m = scanner.hit file.toString source span

theorem finds_iff {results : List FileResult} {records : List Log.Record}
    (h : scanner.survey disk root term = .ok (results, records)) :
    (∃ result ∈ results, m ∈ result.hits) ↔
      ∃ file source, scanner.Finds disk root term file source m := by
  cases hfiles : scanner.files disk root with
  | error error =>
    rw [survey_of_error hfiles] at h
    cases h
  | ok files =>
    rw [survey_of_files hfiles, Except.ok.injEq] at h
    have hresults : results = (scanner.visitAll disk files term).1 := by rw [h]
    rw [← List.mem_flatMap, hresults, hits_visitAll, List.mem_flatMap]
    constructor
    · rintro ⟨file, hfile, hm⟩
      obtain ⟨source, hread, hhit⟩ := mem_hitsIn.mp hm
      exact ⟨file, source, ⟨files, hfiles, hfile⟩, hread, hhit⟩
    · rintro ⟨file, source, ⟨files', hfiles', hfile⟩, hread, hhit⟩
      obtain rfl : files = files' := Except.ok.inj (hfiles.symm.trans hfiles')
      exact ⟨file, hfile, mem_hitsIn.mpr ⟨source, hread, hhit⟩⟩

theorem routine_mem_routines {result : FileResult}
    (h : result ∈ (scanner.visitAll disk files term).1) (hm : m ∈ result.hits)
    (hroutine : m.routine ≠ "") : m.routine ∈ scanner.routines disk files := by
  have hmem := List.mem_flatMap.mpr ⟨result, h, hm⟩
  rw [hits_visitAll] at hmem
  obtain ⟨file, hfile, hm⟩ := List.mem_flatMap.mp hmem
  obtain ⟨source, hread, span, -, rfl⟩ := mem_hitsIn.mp hm
  refine List.mem_flatMap.mpr ⟨file, hfile, ?_⟩
  rw [hread]
  simp only [hit] at hroutine ⊢
  split at hroutine
  · exact absurd rfl hroutine
  · rename_i hdeclaration
    rw [if_neg hdeclaration]
    exact List.mem_map_of_mem ((List.mem_inits _ _).mpr (List.take_prefix _ _))

end Scanner

namespace Sample

def scanner : Scanner :=
  (Settings.standard.scanner none none).toOption.get (by decide +kernel)

def root : Path := ⟨"", ["r"]⟩

/-- Three routines and a test case, which reach `x` by a long way and a short one:
the test case calls `c`, which uses `x` itself and through `b` and `a`. -/
def tree : Disk where
  entries :=
    [(["r"], .directory),
      (["r", "a.py"], .file "def a():\n x\n".toUTF8.toList),
      (["r", "b.py"], .file "def b():\n a()\n".toUTF8.toList),
      (["r", "c.py"], .file "def c():\n b()\n x\n".toUTF8.toList),
      (["r", "test_cases"], .directory),
      (["r", "test_cases", "g"], .directory),
      (["r", "test_cases", "g", "test_t.py"], .file "Polarion ID: P-1\nc()\n".toUTF8.toList)]

def files : List Path :=
  [⟨"", ["r", "a.py"]⟩, ⟨"", ["r", "b.py"]⟩, ⟨"", ["r", "c.py"]⟩,
    ⟨"", ["r", "test_cases", "g", "test_t.py"]⟩]

/-- The source files of a tree, from what the search for its Python files selects. The sort does not
reduce in the kernel; where files are found in order it need not run. -/
theorem files_of_select {tree : Disk} {found : List Path} (hroot : tree.isDirectory root = true)
    (hfound : SourceFiles.select tree false
      [.below, .like (Glob.pieces ['*', '.', 'p', 'y'])] root = found)
    (hsorted : found.Pairwise fun p q => Path.precedes p q) :
    scanner.files tree root = .ok (found.filter fun path =>
      tree.isFile path && !SourceFiles.isGenerated path.name ".py" ["_pb2"]) := by
  have htype : scanner.fileType = ".py" := by decide +kernel
  have hmarkers : scanner.markers = ["_pb2"] := by decide +kernel
  rw [Scanner.files, htype, hmarkers]
  exact SourceFiles.list_of_sorted ".py" ["_pb2"] hroot rfl hfound hsorted

theorem files_eq : scanner.files tree root = .ok files := by
  have hselect : SourceFiles.select tree false
      [.below, .like (Glob.pieces ['*', '.', 'p', 'y'])] root = files := by decide +kernel
  rw [files_of_select (by decide +kernel) hselect (by decide +kernel)]
  exact congrArg Except.ok (by decide +kernel)

theorem survey_eq : scanner.survey tree root = fun term => .ok (scanner.visitAll tree files term) :=
  Scanner.survey_of_files files_eq

def found : TestCase.Cases :=
  [("P-1", ⟨"r/test_cases/g/test_t.py", { identifier := "P-1" }⟩)]

end Sample

theorem sample_isDefault : Sample.scanner.declarations.IsDefault := by
  have hcompile : DeclarationRules.compile DeclarationRules.defaultPattern
      DeclarationRules.defaultIgnored = .ok Sample.scanner.declarations := by rfl
  exact DeclarationRules.isDefault_of_compile hcompile

end TestReach
