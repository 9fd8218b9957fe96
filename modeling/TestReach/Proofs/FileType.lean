import Mathlib.Data.Bool.AllAny
import Mathlib.Tactic.MkIffOfInductiveProp
import TestReach.Proofs.Listing
import TestReach.Proofs.Outcome
import TestReach.Proofs.TestCasePath

namespace TestReach

@[mk_iff]
structure IsEntryName (name : String) : Prop where
  ne_empty : name ≠ ""
  ne_dot : name ≠ "."
  ne_dots : name ≠ ".."
  whole : ∀ c ∈ name.toList, c ≠ '/' ∧ c ≠ '\x00'

-- The characters are looked through as a list; there are too many to try them all.
instance (name : String) : Decidable (IsEntryName name) :=
  decidable_of_iff (name ≠ "" ∧ name ≠ "." ∧ name ≠ ".." ∧
    (name.toList.all fun c => c ≠ '/' ∧ c ≠ '\x00') = true) (by simp [isEntryName_iff])

theorem isEntryName_of_head {c : Char} {rest : List Char} (hdot : c ≠ '.')
    (hwhole : ∀ d ∈ c :: rest, d ≠ '/' ∧ d ≠ '\x00') : IsEntryName (String.ofList (c :: rest)) := by
  have hne {text : String} (htext : text.toList.head? ≠ some c) :
      String.ofList (c :: rest) ≠ text := by
    rintro rfl
    exact htext (by simp)
  have hfirst : some '.' ≠ some c := fun h => hdot (Option.some.inj h).symm
  exact ⟨hne (by simp), hne hfirst, hne hfirst, by simpa using hwhole⟩

namespace Disk

variable {disk : Disk} {path : Path} {name : String}

def Named (disk : Disk) : Prop :=
  ∀ entry ∈ disk.entries, ∀ name ∈ entry.1, IsEntryName name

theorem Named.plain (h : disk.Named) : disk.Plain :=
  fun entry hentry hdots => (h entry hentry _ hdots).ne_dots rfl

/-- The last name of a path that leads somewhere is that of an entry, unless it leads up. -/
theorem Named.isEntryName (h : disk.Named) (hholds : disk.holds (path.child name) = true)
    (hdots : name ≠ "..") : IsEntryName name := by
  obtain ⟨key, hlocate⟩ := holds_iff.mp hholds
  obtain ⟨first, hfirst, hfollow⟩ := locate_eq_ok.mp hlocate
  obtain ⟨middle, hmiddle, -⟩ := exists_follow_of_append hfollow
  have hparent : disk.locate path = .ok middle := locate_eq_ok.mpr ⟨first, hfirst, hmiddle⟩
  obtain ⟨entry, hentry⟩ := mem_namesIn.mp (mem_namesIn_of_holds_child hparent hholds hdots)
  exact h _ hentry name (by simp)

theorem Named.whole_name (h : disk.Named) (hfile : disk.isFile path = true) :
    ∀ c ∈ path.name.toList, c ≠ '/' ∧ c ≠ '\x00' := by
  obtain ⟨root, names⟩ := path
  rcases List.eq_nil_or_concat names with rfl | ⟨above, name, rfl⟩
  · exact List.forall_mem_nil _
  · have hpath : (⟨root, above.concat name⟩ : Path) = Path.child ⟨root, above⟩ name := by
      rw [Path.child, List.concat_eq_append]
    rw [hpath] at hfile ⊢
    rw [Path.name_child]
    by_cases hdots : name = ".."
    · rw [hdots]
      exact List.all_iff_forall_prop.mp (by decide)
    · exact (h.isEntryName (holds_of_isFile hfile) hdots).whole

def lone (name : String) : Disk where
  entries := [([name], .file [])]

theorem lone_named (h : IsEntryName name) : (lone name).Named := by
  intro entry hentry other hother
  obtain rfl : entry = ([name], .file []) := List.mem_singleton.mp hentry
  obtain rfl : other = name := List.mem_singleton.mp hother
  exact h

theorem lone_isFile (h : name ≠ "..") : (lone name).isFile ⟨"", [name]⟩ = true := by
  have hlocate : (lone name).locate ⟨"", [name]⟩ = (lone name).follow [] [name] := rfl
  rw [isFile, found?, hlocate]
  simp [follow, entry?, lone, h]

end Disk

namespace SourceFiles

variable {disk : Disk} {root p : Path} {fileType name : String} {markers : List String} {step : Step}
  {way : List Step × Bool} {fault : ListError}

/-- The search asks for a name with two stars next to each other and something else. -/
def HasDoubleStar (fileType : String) : Prop :=
  ∃ name ∈ Path.namesOf ('*' :: fileType.toList), name ≠ "**" ∧ ['*', '*'] <:+: name.toList

theorem ofName_eq_error : Step.ofName name = .error fault ↔
    fault = .doubleStar ∧ name ≠ "**" ∧ ['*', '*'] <:+: name.toList := by
  unfold Step.ofName
  rw [← Text.contains_iff]
  dsimp only
  split_ifs with hname hdouble hwild
  · exact iff_of_false not_false fun h => h.2.1 (beq_iff_eq.mp hname)
  · simp only [Except.error.injEq, hdouble, and_true, eq_comm (b := fault)]
    exact (and_iff_left fun h => hname (beq_iff_eq.mpr h)).symm
  · simp [hdouble]
  · simp [hdouble]

theorem doubleStar_of_steps (h : steps fileType = .error fault) :
    fault = .doubleStar ∧ HasDoubleStar fileType := by
  rcases bind_eq_error.mp h with hnames | ⟨_, -, h⟩
  · obtain ⟨name, hname, hfault⟩ := exists_error_of_mapM hnames
    obtain ⟨rfl, hdouble⟩ := ofName_eq_error.mp hfault
    exact ⟨rfl, name, hname, hdouble⟩
  · exact absurd h pure_ne_error

theorem steps_eq_error :
    steps fileType = .error fault ↔ fault = .doubleStar ∧ HasDoubleStar fileType := by
  refine ⟨doubleStar_of_steps, ?_⟩
  rintro ⟨rfl, name, hname, hdouble⟩
  cases hsteps : steps fileType with
  | error fault => rw [(doubleStar_of_steps hsteps).1]
  | ok way =>
    obtain ⟨_, hnames, -⟩ := bind_eq_ok.mp hsteps
    obtain ⟨step, hstep⟩ := exists_ok_of_mapM hnames hname
    rw [ofName_eq_error.mpr ⟨rfl, hdouble⟩] at hstep
    cases hstep

example : steps "*x" = .error .doubleStar := by rfl

theorem list_eq_error (hroot : disk.isDirectory root = true) :
    list disk root fileType markers = .error fault ↔
      fault = .doubleStar ∧ HasDoubleStar fileType := by
  rw [list_of_isDirectory hroot, ← steps_eq_error]
  cases steps fileType <;> simp [Except.map]

theorem list_eq_ok {files : List Path} (hroot : disk.isDirectory root = true) :
    list disk root fileType markers = .ok files ↔
      ∃ way, steps fileType = .ok way ∧ listed disk root fileType markers way = files := by
  rw [list_of_isDirectory hroot]
  cases steps fileType <;> simp [Except.map]

theorem not_mem_listed_below (hplain : disk.Plain) (hroot : disk.isDirectory root = true) :
    p ∉ listed disk root fileType markers ([.below], false) := by
  rw [mem_listed_iff hplain hroot]
  rintro ⟨⟨_, -, -, hends⟩, hfile, -⟩
  have hdirectory : disk.isDirectory p = true := hends
  rw [Disk.isFile_eq_false_of_isDirectory hdirectory] at hfile
  cases hfile

theorem ofName_star_eq_ok (h : Step.ofName (String.ofList ('*' :: fileType.toList)) = .ok step) :
    step = .below ∨ step = .like (.anything :: Glob.pieces fileType.toList) := by
  unfold Step.ofName at h
  dsimp only at h
  rw [String.toList_ofList, Glob.pieces_star] at h
  split_ifs at h with hname hdouble hwild
  · exact .inl (Except.ok.inj h).symm
  · exact .inr (Except.ok.inj h).symm
  · exact absurd rfl hwild

theorem below_or_like_of_steps (hslash : '/' ∉ fileType.toList) (h : steps fileType = .ok way) :
    way = ([.below], false) ∨ way = ([.like (.anything :: Glob.pieces fileType.toList)], false) := by
  rw [steps_of_single hslash] at h
  cases hstep : Step.ofName (String.ofList ('*' :: fileType.toList)) with
  | error fault =>
    rw [hstep] at h
    cases h
  | ok step =>
    rw [hstep] at h
    obtain rfl : ([step], false) = way := Except.ok.inj h
    rcases ofName_star_eq_ok hstep with rfl | rfl
    · exact .inl rfl
    · exact .inr rfl

/-- Where a type that is not literal matches something, a name is found that does not end with it: a short
one, behind a character with which the type does not begin. -/
theorem exists_name_unlike {ending : List Char} (hending : ∀ c ∈ ending, c ≠ '/' ∧ c ≠ '\x00')
    (h : Glob.matchesName (Glob.pieces fileType.toList) ending = true)
    (hnot : ¬ Glob.IsLiteral fileType.toList) :
    ∃ other, IsEntryName other ∧ ¬ fileType.toList <:+ other.toList ∧
      Glob.matchesName (.anything :: Glob.pieces fileType.toList) other.toList = true := by
  obtain ⟨short, hshort⟩ := Glob.exists_short h
  obtain ⟨pad, hpad, hhead⟩ : ∃ pad, (pad = 'x' ∨ pad = 'y') ∧ fileType.toList.head? ≠ some pad := by
    by_cases hx : fileType.toList.head? = some 'x'
    · exact ⟨'y', .inr rfl, by simp [hx]⟩
    · exact ⟨'x', .inl rfl, hx⟩
  refine ⟨String.ofList (pad :: short), ?_, ?_, ?_⟩
  · have hchar (c : Char) (hc : c = 'x' ∨ c = 'y') : c ≠ '.' ∧ c ≠ '/' ∧ c ≠ '\x00' := by
      rcases hc with rfl | rfl <;> decide
    apply isEntryName_of_head (hchar pad hpad).1
    rintro c (_ | ⟨_, hc⟩)
    · exact (hchar _ hpad).2
    · exact (hshort.drawn c hc).elim (hending c) fun hx => (hchar c (.inl hx)).2
  · rw [String.toList_ofList, List.suffix_cons_iff]
    rintro (hsame | hsuffix)
    · exact hhead (by rw [hsame]; rfl)
    · have hsame := hsuffix.eq_of_length_le hshort.length_le
      exact hnot (hshort.literal hsame.symm)
  · rw [String.toList_ofList, Glob.matchesName_anything]
    exact ⟨short, List.suffix_cons pad short, hshort.matched⟩

/-- In every tree the search does not fail, and every file it lists ends with the type. -/
def ReadsLiterally (fileType : String) : Prop :=
  ∀ (disk : Disk) (root : Path) (markers : List String), disk.Named → disk.isDirectory root = true →
    ∃ files, list disk root fileType markers = .ok files ∧
      ∀ p ∈ files, fileType.toList <:+ p.name.toList

def ListsNothing (fileType : String) : Prop :=
  ∀ (disk : Disk) (root : Path) (markers : List String), disk.Named → disk.isDirectory root = true →
    list disk root fileType markers = .ok []

/-- The type asks for a single name and has no wildcards but brackets that are not closed. -/
structure IsLiteral (fileType : String) : Prop where
  single : '/' ∉ fileType.toList
  literal : Glob.IsLiteral fileType.toList

theorem isLiteral_of_plain (hwild : Glob.isWild fileType.toList = false)
    (hslash : '/' ∉ fileType.toList) : IsLiteral fileType :=
  ⟨hslash, Glob.pieces_of_plain hwild⟩

theorem IsLiteral.readsLiterally (h : IsLiteral fileType) : ReadsLiterally fileType := by
  intro disk root markers hnamed hroot
  refine ⟨_, (list_eq_ok hroot).mpr ⟨_, steps_like h.single h.literal.star_not_mem, rfl⟩, ?_⟩
  intro p hp
  rw [mem_listed_like hnamed.plain hroot, h.literal, Glob.matchesName_anything_exactly] at hp
  exact hp.2.2.1

theorem lone_listed (hname : IsEntryName name)
    (hmatch : Glob.matchesName (.anything :: Glob.pieces fileType.toList) name.toList = true) :
    ⟨"", [name]⟩ ∈ listed (Disk.lone name) ⟨"", []⟩ fileType []
      ([.like (.anything :: Glob.pieces fileType.toList)], false) := by
  have hdots : ".." ∉ [name] := by simpa using Ne.symm hname.ne_dots
  exact (mem_listed_like (Disk.lone_named hname).plain rfl).mpr
    ⟨⟨[name], hdots, rfl⟩, Disk.lone_isFile hname.ne_dots, hmatch, by simp⟩

/-- A type that is read as it is written in every tree, and by which something is listed in one, is
literal. -/
theorem isLiteral_of_mem (h : ReadsLiterally fileType) (hnamed : disk.Named)
    (hroot : disk.isDirectory root = true) (hway : steps fileType = .ok way)
    (hp : p ∈ listed disk root fileType markers way) : IsLiteral fileType := by
  have hfile : disk.isFile p = true := ((mem_listed_iff hnamed.plain hroot).mp hp).2.1
  have hwhole := hnamed.whole_name hfile
  obtain ⟨files, hfiles, hends⟩ := h disk root markers hnamed hroot
  obtain rfl : listed disk root fileType markers way = files := by
    obtain ⟨way', hway', hlisted⟩ := (list_eq_ok hroot).mp hfiles
    rw [← hlisted, Except.ok.inj (hway.symm.trans hway')]
  have hslash : '/' ∉ fileType.toList := fun hslash =>
    (hwhole _ ((hends p hp).subset hslash)).1 rfl
  refine ⟨hslash, ?_⟩
  by_contra hnot
  rcases below_or_like_of_steps hslash hway with rfl | rfl
  · exact not_mem_listed_below hnamed.plain hroot hp
  obtain ⟨-, -, hmatch, -⟩ := (mem_listed_like hnamed.plain hroot).mp hp
  obtain ⟨ending, hending, hmatch⟩ := Glob.matchesName_anything.mp hmatch
  obtain ⟨other, hother, hunlike, hlike⟩ := exists_name_unlike
    (fun c hc => hwhole c (hending.subset hc)) hmatch hnot
  -- The tree that holds nothing but the other name.
  obtain ⟨files, hfiles, hends⟩ := h (Disk.lone other) ⟨"", []⟩ [] (Disk.lone_named hother) rfl
  obtain ⟨way', hway', rfl⟩ := (list_eq_ok rfl).mp hfiles
  rw [← Except.ok.inj (hway.symm.trans hway')] at hends
  exact hunlike (hends _ (lone_listed hother hlike))

theorem readsLiterally_iff :
    ReadsLiterally fileType ↔ IsLiteral fileType ∨ ListsNothing fileType := by
  constructor
  · intro h
    by_cases hliteral : IsLiteral fileType
    · exact .inl hliteral
    refine .inr fun disk root markers hnamed hroot => ?_
    obtain ⟨files, hfiles, -⟩ := h disk root markers hnamed hroot
    obtain ⟨way, hway, rfl⟩ := (list_eq_ok hroot).mp hfiles
    have hempty : listed disk root fileType markers way = [] :=
      List.eq_nil_iff_forall_not_mem.mpr fun p hp =>
        hliteral (isLiteral_of_mem h hnamed hroot hway hp)
    rw [hfiles, hempty]
  · rintro (h | h)
    · exact h.readsLiterally
    · exact fun disk root markers hnamed hroot => ⟨[], h disk root markers hnamed hroot, by simp⟩

def Rejectable (fileType name : String) : Prop :=
  ∃ marker, isGenerated name fileType [marker] = true

def Recognisable (fileType name : String) : Prop :=
  ∃ directory opening above,
    TestCase.Layout.holds ⟨directory, opening, fileType⟩ (above ++ "/" ++ name) = true

theorem rejectable_iff : Rejectable fileType name ↔ fileType.toList <:+ name.toList := by
  constructor
  · rintro ⟨marker, hmarker⟩
    rw [← Bool.not_eq_false, isGenerated_eq_false, List.forall_mem_singleton, not_not,
      String.toList_append] at hmarker
    exact (List.suffix_append _ _).trans hmarker
  · rintro ⟨start, hstart⟩
    refine ⟨String.ofList start, ?_⟩
    rw [← Bool.not_eq_false, isGenerated_eq_false, List.forall_mem_singleton, not_not,
      String.toList_append, String.toList_ofList, hstart]

theorem recognisable_of_suffix (h : fileType.toList <:+ name.toList) : Recognisable fileType name := by
  obtain ⟨start, hstart⟩ := h
  refine ⟨"d", String.ofList start, "d/g", TestCase.Layout.holds_iff_cut.mpr
    ⟨[], '/', ['g'], '/', [], [], ⟨?_, rfl, rfl, by simp, by simp, .inl rfl⟩⟩⟩
  simp [← hstart]

theorem suffix_of_recognisable (hslash : '/' ∉ fileType.toList) (hline : '\n' ∉ name.toList)
    (h : Recognisable fileType name) : fileType.toList <:+ name.toList := by
  obtain ⟨directory, opening, above, hholds⟩ := h
  obtain ⟨before, first, gap, second, middle, after, hcut⟩ := TestCase.Layout.holds_iff_cut.mp hholds
  have hpath : (above ++ "/" ++ name).toList = above.toList ++ '/' :: name.toList := by simp
  have hname : '/' :: name.toList <:+ (above ++ "/" ++ name).toList := ⟨above.toList, hpath.symm⟩
  have hend : fileType.toList ++ after <:+ (above ++ "/" ++ name).toList :=
    ⟨before ++ (directory.toList ++ first :: (gap ++ second :: (opening.toList ++ middle))), by
      simp [hcut.eq_append]⟩
  obtain rfl : after = [] := by
    refine hcut.ended.resolve_right ?_
    rintro rfl
    have hfeed : ['\n'] <:+ '/' :: name.toList := List.suffix_of_suffix_length_le
      ((List.suffix_append _ _).trans hend) hname (by simp)
    exact hline (by simpa using hfeed.subset (List.mem_singleton_self _))
  rw [List.append_nil] at hend
  rcases List.suffix_or_suffix_of_suffix hend hname with hends | hlonger
  · refine (List.suffix_cons_iff.mp hends).resolve_left fun hsame => hslash ?_
    simp [hsame]
  · exact absurd (hlonger.subset List.mem_cons_self) hslash

/-- The search fails just if it asks for two stars in a row. It lists files that end with the type and no
others, in any tree, just if the type is literal or finds nothing at all. The other readings are literal:
the names that end with the type are those that the check for generated files can tell, and those that
test cases can have. -/
theorem readings_agree_iff (hroot : disk.isDirectory root = true) :
    (∀ fault, list disk root fileType markers = .error fault ↔
      fault = .doubleStar ∧ HasDoubleStar fileType) ∧
    (ReadsLiterally fileType ↔ IsLiteral fileType ∨ ListsNothing fileType) ∧
    ∀ name, (Rejectable fileType name ↔ fileType.toList <:+ name.toList) ∧
      (fileType.toList <:+ name.toList → Recognisable fileType name) ∧
      ('/' ∉ fileType.toList → '\n' ∉ name.toList → Recognisable fileType name →
        fileType.toList <:+ name.toList) :=
  ⟨fun _ => list_eq_error hroot, readsLiterally_iff, fun _ =>
    ⟨rejectable_iff, recognisable_of_suffix, suffix_of_recognisable⟩⟩

end SourceFiles

namespace Sample

theorem python_type_agrees : oddTree.isDirectory oddRoot = true ∧
    (∀ fault, SourceFiles.list oddTree oddRoot ".py" ["_pb2"] ≠ .error fault) ∧
    SourceFiles.ReadsLiterally ".py" ∧ SourceFiles.Rejectable ".py" "z_pb2.py" ∧
    SourceFiles.Recognisable ".py" "test_t.py" := by
  have hroot : oddTree.isDirectory oddRoot = true := by decide +kernel
  obtain ⟨herror, hreads, hnames⟩ := @SourceFiles.readings_agree_iff _ _ ".py" ["_pb2"] hroot
  have hdouble : ¬ SourceFiles.HasDoubleStar ".py" := by
    unfold SourceFiles.HasDoubleStar
    decide +kernel
  have hliteral : SourceFiles.IsLiteral ".py" := SourceFiles.isLiteral_of_plain rfl (by decide)
  refine ⟨hroot, fun fault hfault => hdouble ((herror fault).mp hfault).2,
    hreads.mpr (.inl hliteral), (hnames _).1.mpr (by decide), (hnames _).2.1 (by decide)⟩

def singleTree : Disk where
  entries := [(["r"], .directory), (["r", "a.py"], .file [])]

/-- A bracket is read as a wildcard: the file that is listed does not end with the type. -/
theorem bracket_type_misread : ¬ (∀ fileType, SourceFiles.ReadsLiterally fileType) ∧
    SourceFiles.list singleTree oddRoot ".[p]y" ["_pb2"] = .ok [oddRoot.child "a.py"] ∧
    ¬ ".[p]y".toList <:+ "a.py".toList := by
  have hroot : singleTree.isDirectory oddRoot = true := by decide +kernel
  have hselect : SourceFiles.select singleTree false
      [.below, .like (Glob.pieces "*.[p]y".toList)] oddRoot = [oddRoot.child "a.py"] := by
    decide +kernel
  have hlist : SourceFiles.list singleTree oddRoot ".[p]y" ["_pb2"] = .ok [oddRoot.child "a.py"] := by
    rw [SourceFiles.list_of_sorted ".[p]y" ["_pb2"] hroot rfl hselect (List.pairwise_singleton _ _)]
    exact congrArg Except.ok (by decide +kernel)
  have hnot : ¬ ".[p]y".toList <:+ "a.py".toList := by decide
  have hnamed : singleTree.Named := by
    unfold Disk.Named
    decide +kernel
  refine ⟨fun hall => ?_, hlist, hnot⟩
  obtain ⟨files, hfiles, hends⟩ := hall ".[p]y" singleTree oddRoot ["_pb2"] hnamed hroot
  obtain rfl : [oddRoot.child "a.py"] = files := Except.ok.inj (hlist.symm.trans hfiles)
  exact hnot (hends _ (List.mem_singleton_self _))

end Sample
end TestReach
