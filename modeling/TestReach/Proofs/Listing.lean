import TestReach.Proofs.Glob
import TestReach.Proofs.Occurrence
import TestReach.Proofs.SourceFiles
import TestReach.Proofs.Split

namespace TestReach.SourceFiles

variable {disk : Disk} {root p : Path} {names : List String} {name fileType : String}
  {markers : List String} {pieces : List Glob.Piece}

theorem namesOf_star (h : '/' ∉ fileType.toList) :
    Path.namesOf ('*' :: fileType.toList) = [String.ofList ('*' :: fileType.toList)] := by
  have hwhole : ∀ c ∈ '*' :: fileType.toList, (c == '/') = false := by
    intro c hc
    rcases List.mem_cons.mp hc with rfl | hc
    · rfl
    · exact beq_eq_false_iff_ne.mpr fun hslash => h (hslash ▸ hc)
  simp [Path.namesOf, Text.split_of_whole hwhole]

theorem not_doubleStar (h : '*' ∉ fileType.toList) : ¬ ['*', '*'] <:+: '*' :: fileType.toList := by
  intro hdouble
  have hcount := hdouble.sublist.count_le '*'
  simp [List.count_eq_zero.mpr h] at hcount

theorem ofName_star (h : '*' ∉ fileType.toList) :
    Step.ofName (String.ofList ('*' :: fileType.toList)) =
      .ok (.like (.anything :: Glob.pieces fileType.toList)) := by
  have hname : (String.ofList ('*' :: fileType.toList) == "**") = false := by
    rw [beq_eq_false_iff_ne]
    intro hname
    rw [← String.toList_inj, String.toList_ofList] at hname
    exact not_doubleStar h (hname ▸ List.infix_rfl)
  have hcontains : Text.contains ['*', '*'] ('*' :: fileType.toList) = false := by
    rw [← Bool.not_eq_true, Text.contains_iff]
    exact not_doubleStar h
  have hwild : Glob.isWild ('*' :: fileType.toList) = true := rfl
  rw [Step.ofName, hname, String.toList_ofList, hcontains, hwild, Glob.pieces_star]
  rfl

theorem steps_of_single (hslash : '/' ∉ fileType.toList) : steps fileType =
    (Step.ofName (String.ofList ('*' :: fileType.toList))).map fun step => ([step], false) := by
  have hlast : (fileType.toList.getLast? == some '/') = false :=
    beq_eq_false_iff_ne.mpr fun hlast => hslash (List.mem_of_getLast? hlast)
  rw [steps, namesOf_star hslash, hlast, List.mapM_cons]
  cases Step.ofName (String.ofList ('*' :: fileType.toList)) <;> rfl

theorem steps_like (hslash : '/' ∉ fileType.toList) (hstar : '*' ∉ fileType.toList) :
    steps fileType = .ok ([.like (.anything :: Glob.pieces fileType.toList)], false) := by
  rw [steps_of_single hslash, ofName_star hstar]
  rfl

theorem admits_below_like : Admits [.below, .like pieces] names ↔ ∃ above name,
    names = above ++ [name] ∧ ".." ∉ names ∧ Glob.matchesName pieces name.toList = true := by
  simp only [Admits, Step.Admits]
  constructor
  · rintro ⟨above, _, rfl, habove, _, _, rfl, ⟨name, rfl, hdots, hname⟩, rfl⟩
    refine ⟨above, name, by simp, ?_, hname⟩
    simp [habove, Ne.symm hdots]
  · rintro ⟨above, name, rfl, hdots, hname⟩
    rw [List.mem_append, List.mem_singleton, not_or] at hdots
    exact ⟨above, [name], rfl, hdots.1, [name], [], rfl, ⟨name, rfl, Ne.symm hdots.2, hname⟩, rfl⟩

theorem isGenerated_eq_false : isGenerated name fileType markers = false ↔
    ∀ marker ∈ markers, ¬ (marker ++ fileType).toList <:+ name.toList := by
  simp [isGenerated, Text.endsWith]

/-- A path that names lead to from a directory leads to a file only by one name or more. -/
theorem exists_last_of_isFile (hroot : disk.isDirectory root = true)
    (hfile : disk.isFile (root.descend names) = true) : ∃ above name, names = above ++ [name] := by
  rcases List.eq_nil_or_concat names with rfl | ⟨above, name, rfl⟩
  · rw [Path.descend_nil, Disk.isFile_eq_false_of_isDirectory hroot] at hfile
    cases hfile
  · exact ⟨above, name, List.concat_eq_append⟩

theorem mem_listed_like (hplain : disk.Plain) (hroot : disk.isDirectory root = true) :
    p ∈ listed disk root fileType markers ([.like pieces], false) ↔
      (∃ names, ".." ∉ names ∧ p = root.descend names) ∧ disk.isFile p = true ∧
        Glob.matchesName pieces p.name.toList = true ∧
        ∀ marker ∈ markers, ¬ (marker ++ fileType).toList <:+ p.name.toList := by
  rw [mem_listed_iff hplain hroot, isGenerated_eq_false]
  simp only [admits_below_like]
  constructor
  · rintro ⟨⟨_, rfl, ⟨above, name, rfl, hdots, hname⟩, -⟩, hfile, hmarkers⟩
    exact ⟨⟨_, hdots, rfl⟩, hfile, by simpa using hname, hmarkers⟩
  · rintro ⟨⟨names, hdots, rfl⟩, hfile, hname, hmarkers⟩
    obtain ⟨above, name, rfl⟩ := exists_last_of_isFile hroot hfile
    have hends : EndsAt disk false [.below, .like pieces] (root.descend (above ++ [name])) :=
      Disk.holds_of_isFile hfile
    exact ⟨⟨_, rfl, ⟨above, name, rfl, hdots, by simpa using hname⟩, hends⟩, hfile, hmarkers⟩

theorem listed_ascending (hplain : disk.Plain) (hroot : disk.isDirectory root = true)
    {wanted : List Step × Bool} :
    (listed disk root fileType markers wanted).Pairwise fun p q => p.names < q.names := by
  have hordered : (listed disk root fileType markers wanted).Pairwise fun p q =>
      Path.precedes p q = true ∧ p ≠ q := List.pairwise_and_iff.mpr ⟨pairwise_listed, nodup_listed⟩
  apply hordered.imp_of_mem
  rintro p q hp hq ⟨hprecedes, hne⟩
  have hroots := (root_of_mem_listed hplain hroot hp).trans (root_of_mem_listed hplain hroot hq).symm
  exact Path.names_lt_of_precedes hroots hprecedes hne

/-- The files of a plain type are the regular files at any depth whose name ends with it, without
generated ones. They are listed once each, in ascending order of the names that lead to them. -/
theorem list_exact_and_ascending (hplain : disk.Plain) (hroot : disk.isDirectory root = true)
    (hwild : Glob.isWild fileType.toList = false) (hslash : '/' ∉ fileType.toList) :
    ∃ files, list disk root fileType markers = .ok files ∧
      (∀ p, p ∈ files ↔ (∃ names, ".." ∉ names ∧ p = root.descend names) ∧ disk.isFile p = true ∧
        fileType.toList <:+ p.name.toList ∧
        ∀ marker ∈ markers, ¬ (marker ++ fileType).toList <:+ p.name.toList) ∧
      files.Pairwise fun p q => p.names < q.names := by
  have hstar : '*' ∉ fileType.toList := fun h => (Glob.isWild_eq_false.mp hwild _ h).1 rfl
  refine ⟨_, by rw [list_of_isDirectory hroot, steps_like hslash hstar]; rfl, ?_,
    listed_ascending hplain hroot⟩
  intro p
  rw [mem_listed_like hplain hroot, Glob.pieces_of_plain hwild, Glob.matchesName_anything_exactly]

end TestReach.SourceFiles

namespace TestReach.Sample

/-- A directory with a name like a file's, hidden files and directories, and a file in a directory that
comes before one next to it, but not as a text. -/
def oddTree : Disk where
  entries :=
    [(["r"], .directory),
      (["r", "d.py"], .directory),
      (["r", "d.py", "x.py"], .file []),
      (["r", "a-b.py"], .file []),
      (["r", "a"], .directory),
      (["r", "a", "z.py"], .file []),
      (["r", "a", "z_pb2.py"], .file []),
      (["r", ".h"], .directory),
      (["r", ".h", ".y.py"], .file []),
      (["r", "n.txt"], .file [])]

def oddRoot : Path := ⟨"", ["r"]⟩

theorem oddTree_listed : oddTree.Plain ∧ oddTree.isDirectory oddRoot = true ∧
    Glob.isWild ".py".toList = false ∧ '/' ∉ ".py".toList ∧
    ∃ files, SourceFiles.list oddTree oddRoot ".py" ["_pb2"] = .ok files ∧
      (∀ names ∈ [[".h", ".y.py"], ["a", "z.py"], ["a-b.py"], ["d.py", "x.py"]],
        oddRoot.descend names ∈ files) ∧
      (∀ names ∈ [["a", "z_pb2.py"], ["d.py"], ["n.txt"]], oddRoot.descend names ∉ files) ∧
      files.Pairwise fun p q => p.names < q.names := by
  have hplain : oddTree.Plain := by
    unfold Disk.Plain
    decide +kernel
  have hroot : oddTree.isDirectory oddRoot = true := by decide +kernel
  have hslash : '/' ∉ ".py".toList := by decide
  obtain ⟨files, hlist, hmem, hsorted⟩ := SourceFiles.list_exact_and_ascending hplain hroot rfl
    hslash
  have hin : ∀ names ∈ [[".h", ".y.py"], ["a", "z.py"], ["a-b.py"], ["d.py", "x.py"]],
      ".." ∉ names ∧ oddTree.isFile (oddRoot.descend names) = true ∧
        ".py".toList <:+ (oddRoot.descend names).name.toList ∧
        ∀ marker ∈ ["_pb2"], ¬ (marker ++ ".py").toList <:+ (oddRoot.descend names).name.toList := by
    decide +kernel
  have hout : ∀ names ∈ [["a", "z_pb2.py"], ["d.py"], ["n.txt"]],
      ¬ (oddTree.isFile (oddRoot.descend names) = true ∧
        ".py".toList <:+ (oddRoot.descend names).name.toList ∧
        ∀ marker ∈ ["_pb2"], ¬ (marker ++ ".py").toList <:+ (oddRoot.descend names).name.toList) := by
    decide +kernel
  refine ⟨hplain, hroot, rfl, hslash, files, hlist, ?_, ?_, hsorted⟩
  · intro names hnames
    obtain ⟨hdots, hfile⟩ := hin names hnames
    exact (hmem _).mpr ⟨⟨names, hdots, rfl⟩, hfile⟩
  · intro names hnames hlisted
    exact hout names hnames ((hmem _).mp hlisted).2

end TestReach.Sample
