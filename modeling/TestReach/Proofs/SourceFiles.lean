import Mathlib.Data.List.Fold
import Mathlib.Data.List.MinMax
import Mathlib.Data.List.Nodup
import TestReach.Proofs.Disk
import TestReach.SourceFiles

namespace TestReach.SourceFiles

variable {disk disk' : Disk} {path p root : Path} {key : Key} {names : List String} {step : Step}
  {way : List Step} {directoriesOnly : Bool} {fuel : Nat} {fileType : String} {markers : List String}
  {files files' : List Path}

def Step.Admits : Step → List String → Prop
  | below, names => ".." ∉ names
  | named name, names => names = [name]
  | like pieces, names =>
    ∃ name, names = [name] ∧ name ≠ ".." ∧ Glob.matchesName pieces name.toList = true

def Admits : List Step → List String → Prop
  | [], names => names = []
  | step :: way, names => ∃ first rest, names = first ++ rest ∧ step.Admits first ∧ Admits way rest

/-- Whether the last of the steps goes to any depth. Such steps lead to directories alone. -/
def endsBelow (way : List Step) : Bool :=
  way.getLast? == some .below

/-- Where steps may end: somewhere, or at a directory if only directories are wanted. -/
def EndsAt (disk : Disk) (directoriesOnly : Bool) (way : List Step) (p : Path) : Prop :=
  if directoriesOnly || endsBelow way then disk.isDirectory p = true else disk.holds p = true

theorem EndsAt.holds (h : EndsAt disk directoriesOnly way p) : disk.holds p = true := by
  unfold EndsAt at h
  split at h
  · exact Disk.holds_of_isDirectory h
  · exact h

theorem EndsAt.congr (h : disk.found? p = disk'.found? p) :
    EndsAt disk directoriesOnly way p ↔ EndsAt disk' directoriesOnly way p := by
  simp only [EndsAt, Disk.isDirectory, Disk.holds, h]

theorem directoriesBelow_succ (h : disk.locate path = .ok key) :
    directoriesBelow disk (fuel + 1) path =
      path :: ((disk.namesIn key).map path.child).flatMap fun child =>
        if disk.isDirectory child then directoriesBelow disk fuel child else [] := by
  rw [directoriesBelow, h]

theorem mem_directoriesBelow (h : disk.locate path = .ok key) :
    p ∈ directoriesBelow disk (fuel + 1) path ↔ p = path ∨ ∃ name ∈ disk.namesIn key,
      disk.isDirectory (path.child name) = true ∧
        p ∈ directoriesBelow disk fuel (path.child name) := by
  rw [directoriesBelow_succ h, List.mem_cons, List.mem_flatMap]
  refine or_congr_right ⟨?_, ?_⟩
  · rintro ⟨child, hchild, hp⟩
    obtain ⟨name, hname, rfl⟩ := List.mem_map.mp hchild
    split at hp
    · rename_i hdirectory
      exact ⟨name, hname, hdirectory, hp⟩
    · cases hp
  · rintro ⟨name, hname, hdirectory, hp⟩
    exact ⟨_, List.mem_map_of_mem hname, by rwa [if_pos hdirectory]⟩

theorem exists_names_of_mem_directoriesBelow (hplain : disk.Plain)
    (hpath : disk.isDirectory path = true) (h : p ∈ directoriesBelow disk fuel path) :
    ∃ names, p = path.descend names ∧ ".." ∉ names ∧ disk.isDirectory p = true := by
  induction fuel generalizing path with
  | zero =>
    obtain rfl : p = path := List.mem_singleton.mp h
    exact ⟨[], by simp, by simp, hpath⟩
  | succ fuel ih =>
    obtain ⟨key, hkey, -⟩ := Disk.isDirectory_iff.mp hpath
    rcases (mem_directoriesBelow hkey).mp h with rfl | ⟨name, hname, hchild, hp⟩
    · exact ⟨[], by simp, by simp, hpath⟩
    · obtain ⟨names, rfl, hnames, hp⟩ := ih hchild hp
      have hdots : ".." ≠ name := Ne.symm (Disk.ne_dots_of_mem_namesIn hplain hname)
      exact ⟨name :: names, by simp, by simp [hdots, hnames], hp⟩

theorem mem_directoriesBelow_of_length_le (hp : disk.isDirectory (path.descend names) = true)
    (hnames : ".." ∉ names) (hfuel : names.length ≤ fuel) :
    path.descend names ∈ directoriesBelow disk fuel path := by
  induction names generalizing path fuel with
  | nil =>
    cases fuel with
    | zero => simp [directoriesBelow]
    | succ fuel => simp [directoriesBelow]
  | cons name names ih =>
    have hpath : disk.isDirectory path = true :=
      Disk.isDirectory_of_descend (Disk.holds_of_isDirectory hp)
    obtain ⟨key, hkey, -⟩ := Disk.isDirectory_iff.mp hpath
    rw [List.mem_cons, not_or] at hnames
    rw [Path.descend_cons] at hp ⊢
    -- The child is on the way to a directory, so it is one too and its parent lists it.
    have hchild : disk.isDirectory (path.child name) = true :=
      Disk.isDirectory_of_isDirectory_descend hp
    have hlisted : name ∈ disk.namesIn key :=
      Disk.mem_namesIn_of_holds_child hkey (Disk.holds_of_isDirectory hchild) (Ne.symm hnames.1)
    cases fuel with
    | zero => cases hfuel
    | succ fuel =>
      have hlength : names.length ≤ fuel := Nat.le_of_succ_le_succ hfuel
      have hrest := ih hp hnames.2 hlength
      exact (mem_directoriesBelow hkey).mpr (Or.inr ⟨name, hlisted, hchild, hrest⟩)

theorem length_le_depth {entry : Entry} (h : (key, entry) ∈ disk.entries) :
    key.length ≤ depth disk := by
  have hlength : key.length ∈ disk.entries.map (·.1.length) := List.mem_map_of_mem h
  rw [depth, List.foldl_eq_foldr]
  exact List.le_max_of_le' 0 hlength le_rfl

theorem mem_directoriesBelow_iff (hplain : disk.Plain) (hpath : disk.isDirectory path = true) :
    p ∈ directoriesBelow disk (depth disk) path ↔
      ∃ names, p = path.descend names ∧ ".." ∉ names ∧ disk.isDirectory p = true := by
  constructor
  · exact exists_names_of_mem_directoriesBelow hplain hpath
  · rintro ⟨names, rfl, hnames, hp⟩
    apply mem_directoriesBelow_of_length_le hp hnames
    by_cases hempty : names = []
    · simp [hempty]
    -- The key of the directory ends with its names and is among those that the depth is taken from.
    obtain ⟨key, hkey, -⟩ := Disk.isDirectory_iff.mp hpath
    have hlocate := Disk.locate_descend hkey (Disk.holds_of_isDirectory hp) hnames
    have hsome := Disk.isSome_entry_of_locate hlocate
    obtain ⟨entry, hentry⟩ := Disk.mem_entries_of_isSome hsome (by simp [hempty])
    have hlength := length_le_depth hentry
    rw [List.length_append] at hlength
    omega

/-- What a search goes on with after a step: a directory, unless the step is the last. -/
def GoesOn (disk : Disk) (directoriesOnly : Bool) (step : Step) (way : List Step) (p : Path) : Prop :=
  if way.isEmpty then EndsAt disk directoriesOnly [step] p else disk.isDirectory p = true

theorem GoesOn.holds (h : GoesOn disk directoriesOnly step way p) : disk.holds p = true := by
  unfold GoesOn at h
  split at h
  · exact h.holds
  · exact Disk.holds_of_isDirectory h

theorem goesOn_below : GoesOn disk directoriesOnly .below way p ↔ disk.isDirectory p = true := by
  simp [GoesOn, EndsAt, endsBelow]

theorem goesOn_iff (h : step ≠ .below) : GoesOn disk directoriesOnly step way p ↔
    (if way.isEmpty && !directoriesOnly then disk.holds p else disk.isDirectory p) = true := by
  have hends : endsBelow [step] = false := by simpa [endsBelow] using h
  cases directoriesOnly <;> cases way <;> simp [GoesOn, EndsAt, hends]

theorem mem_select_cons (hplain : disk.Plain) (hpath : disk.isDirectory path = true) :
    p ∈ select disk directoriesOnly (step :: way) path ↔ ∃ first, step.Admits first ∧
      GoesOn disk directoriesOnly step way (path.descend first) ∧
      p ∈ select disk directoriesOnly way (path.descend first) := by
  cases step with
  | below =>
    simp only [select, List.mem_eraseDups, List.mem_flatMap, mem_directoriesBelow_iff hplain hpath,
      goesOn_below]
    constructor
    · rintro ⟨_, ⟨first, rfl, hfirst, hdirectory⟩, hp⟩
      exact ⟨first, hfirst, hdirectory, hp⟩
    · rintro ⟨first, hfirst, hdirectory, hp⟩
      exact ⟨_, ⟨first, rfl, hfirst, hdirectory⟩, hp⟩
  | named name =>
    simp only [select, List.mem_eraseDups, List.mem_flatMap, List.mem_filter, List.mem_singleton]
    constructor
    · rintro ⟨_, ⟨rfl, hwanted⟩, hp⟩
      exact ⟨[name], rfl, by simpa using (goesOn_iff (by simp)).mpr hwanted, by simpa using hp⟩
    · rintro ⟨_, rfl, hgoes, hp⟩
      rw [Path.descend_cons, Path.descend_nil] at hgoes hp
      exact ⟨_, ⟨rfl, (goesOn_iff (by simp)).mp hgoes⟩, hp⟩
  | like pieces =>
    obtain ⟨key, hkey, -⟩ := Disk.isDirectory_iff.mp hpath
    simp only [select, hkey, List.mem_eraseDups, List.mem_flatMap, List.mem_filter, List.mem_map]
    constructor
    · rintro ⟨_, ⟨⟨name, ⟨hlisted, hmatches⟩, rfl⟩, hwanted⟩, hp⟩
      refine ⟨[name], ⟨name, rfl, Disk.ne_dots_of_mem_namesIn hplain hlisted, hmatches⟩, ?_, ?_⟩
      · simpa using (goesOn_iff (by simp)).mpr hwanted
      · simpa using hp
    · rintro ⟨_, ⟨name, rfl, hdots, hmatches⟩, hgoes, hp⟩
      rw [Path.descend_cons, Path.descend_nil] at hgoes hp
      have hlisted : name ∈ disk.namesIn key :=
        Disk.mem_namesIn_of_holds_child hkey hgoes.holds hdots
      exact ⟨_, ⟨⟨name, ⟨hlisted, hmatches⟩, rfl⟩, (goesOn_iff (by simp)).mp hgoes⟩, hp⟩

@[simp] theorem endsBelow_cons_cons {next : Step} :
    endsBelow (step :: next :: way) = endsBelow (next :: way) := by
  simp [endsBelow, List.getLast?_cons_cons]

/-- Steps that go on by no names lead to directories alone. -/
theorem endsBelow_of_admits_nil (h : Admits (step :: way) []) : endsBelow (step :: way) = true := by
  induction way generalizing step with
  | nil =>
    obtain ⟨first, rest, hnames, hfirst, -⟩ := h
    obtain ⟨rfl, rfl⟩ := List.append_eq_nil_iff.mp hnames.symm
    cases step with
    | below => rfl
    | named name => cases hfirst
    | like pieces =>
      obtain ⟨name, hname, -⟩ := hfirst
      cases hname
  | cons next way ih =>
    obtain ⟨first, rest, hnames, -, hrest⟩ := h
    obtain ⟨rfl, rfl⟩ := List.append_eq_nil_iff.mp hnames.symm
    rw [endsBelow_cons_cons]
    exact ih hrest

theorem mem_select_iff (hplain : disk.Plain) (hpath : disk.isDirectory path = true) :
    p ∈ select disk directoriesOnly way path ↔
      ∃ names, p = path.descend names ∧ Admits way names ∧ EndsAt disk directoriesOnly way p := by
  induction way generalizing path with
  | nil =>
    have hends : EndsAt disk directoriesOnly [] path := by
      unfold EndsAt
      split
      · exact hpath
      · exact Disk.holds_of_isDirectory hpath
    simp only [select, List.mem_singleton, Admits]
    constructor
    · rintro rfl
      exact ⟨[], by simp, rfl, hends⟩
    · rintro ⟨_, rfl, rfl, -⟩
      exact Path.descend_nil path
  | cons step way ih =>
    rw [mem_select_cons hplain hpath]
    cases way with
    | nil =>
      simp only [GoesOn, List.isEmpty_nil, if_true, select, List.mem_singleton, Admits]
      constructor
      · rintro ⟨first, hfirst, hends, rfl⟩
        exact ⟨first, rfl, ⟨first, [], by simp, hfirst, rfl⟩, hends⟩
      · rintro ⟨_, rfl, ⟨first, _, rfl, hfirst, rfl⟩, hends⟩
        rw [List.append_nil] at hends ⊢
        exact ⟨first, hfirst, hends, rfl⟩
    | cons next way =>
      simp only [GoesOn, List.isEmpty_cons, Bool.false_eq_true, if_false]
      constructor
      · rintro ⟨first, hfirst, hdirectory, hp⟩
        obtain ⟨rest, rfl, hrest, hends⟩ := (ih hdirectory).mp hp
        refine ⟨first ++ rest, by simp, ⟨first, rest, rfl, hfirst, hrest⟩, ?_⟩
        rwa [EndsAt, endsBelow_cons_cons]
      · rintro ⟨_, rfl, ⟨first, rest, rfl, hfirst, hrest⟩, hends⟩
        rw [EndsAt, endsBelow_cons_cons, ← EndsAt, Path.descend_append] at hends
        -- The first step leads to a directory because the search goes on from there.
        have hdirectory : disk.isDirectory (path.descend first) = true := by
          cases rest with
          | nil => simpa [EndsAt, endsBelow_of_admits_nil hrest] using hends
          | cons name rest => exact Disk.isDirectory_of_descend hends.holds
        refine ⟨first, hfirst, hdirectory, (ih hdirectory).mpr ⟨rest, by simp, hrest, ?_⟩⟩
        rwa [Path.descend_append]

/-- The paths that are searched for, without those of generated files. -/
def listed (disk : Disk) (root : Path) (fileType : String) (markers : List String)
    (way : List Step × Bool) : List Path :=
  ((select disk way.2 (.below :: way.1) root).mergeSort Path.precedes).filter fun path =>
    disk.isFile path && !isGenerated path.name fileType markers

theorem list_of_isDirectory (hroot : disk.isDirectory root = true) :
    list disk root fileType markers = (steps fileType).map (listed disk root fileType markers) := by
  unfold list
  rw [hroot]
  rfl

theorem list_of_sorted (fileType : String) (markers : List String) {found : List Path}
    (hroot : disk.isDirectory root = true) (hsteps : steps fileType = .ok (way, directoriesOnly))
    (hfound : select disk directoriesOnly (.below :: way) root = found)
    (hsorted : found.Pairwise fun p q => Path.precedes p q) :
    list disk root fileType markers = .ok (found.filter fun path =>
      disk.isFile path && !isGenerated path.name fileType markers) := by
  rw [list_of_isDirectory hroot, hsteps, Except.map, listed, hfound,
    List.mergeSort_of_pairwise hsorted]

variable {wanted : List Step × Bool}

theorem nodup_eraseDups (paths : List Path) : paths.eraseDups.Nodup := by
  cases paths with
  | nil => simp
  | cons path rest =>
    rw [List.eraseDups_cons, List.nodup_cons]
    exact ⟨by simp [List.mem_eraseDups], nodup_eraseDups _⟩
termination_by paths.length
decreasing_by
  have hlength := List.length_filter_le (fun other => !other == path) rest
  simp only [List.length_cons]
  omega

theorem nodup_listed : (listed disk root fileType markers wanted).Nodup := by
  have hselect : (select disk wanted.2 (.below :: wanted.1) root).Nodup := by
    simp only [select]
    exact nodup_eraseDups _
  exact ((List.mergeSort_perm _ _).nodup_iff.mpr hselect).filter _

theorem pairwise_listed :
    (listed disk root fileType markers wanted).Pairwise fun p q => Path.precedes p q = true :=
  (List.pairwise_mergeSort Path.precedes_trans Path.precedes_total _).filter _

theorem mem_listed_iff (hplain : disk.Plain) (hroot : disk.isDirectory root = true) :
    p ∈ listed disk root fileType markers wanted ↔
      (∃ names, p = root.descend names ∧ Admits (.below :: wanted.1) names ∧
        EndsAt disk wanted.2 (.below :: wanted.1) p) ∧
      disk.isFile p = true ∧ isGenerated p.name fileType markers = false := by
  simp [listed, mem_select_iff hplain hroot]

theorem root_of_mem_listed (hplain : disk.Plain) (hroot : disk.isDirectory root = true)
    (h : p ∈ listed disk root fileType markers wanted) : p.root = root.root := by
  obtain ⟨⟨names, rfl, -, -⟩, -⟩ := (mem_listed_iff hplain hroot).mp h
  rfl

theorem filterMap_filter_isSome {α : Type} (paths : List Path) (f : Path → Option α) :
    (paths.filter fun p => (f p).isSome).filterMap f = paths.filterMap f := by
  rw [List.filterMap_filter]
  apply List.filterMap_congr
  intro p _
  cases f p <;> rfl

section TwoTrees

variable (hplain : disk.Plain) (hplain' : disk'.Plain) (hroot : disk.isDirectory root = true)
  (hroot' : disk'.isDirectory root = true)

include hplain hplain' hroot hroot'

theorem mem_listed_congr (h : disk.found? p = disk'.found? p) :
    p ∈ listed disk root fileType markers wanted ↔ p ∈ listed disk' root fileType markers wanted := by
  have hfile : disk.isFile p = disk'.isFile p := by simp only [Disk.isFile, h]
  rw [mem_listed_iff hplain hroot, mem_listed_iff hplain' hroot', hfile]
  simp only [EndsAt.congr h]

/-- Listed paths that are chosen in both trees are the same, in the same order. -/
theorem filter_listed_congr {keep keep' : Path → Bool}
    (h : ∀ p, p ∈ listed disk root fileType markers wanted ∧ keep p = true ↔
      p ∈ listed disk' root fileType markers wanted ∧ keep' p = true) :
    (listed disk root fileType markers wanted).filter keep =
      (listed disk' root fileType markers wanted).filter keep' := by
  have hperm : ((listed disk root fileType markers wanted).filter keep).Perm
      ((listed disk' root fileType markers wanted).filter keep') := by
    apply (List.perm_ext_iff_of_nodup (nodup_listed.filter _) (nodup_listed.filter _)).mpr
    intro p
    rw [List.mem_filter, List.mem_filter]
    exact h p
  -- The order tells the paths below one root apart, so that only one list of them is ascending.
  apply List.Perm.eq_of_pairwise _ (pairwise_listed.filter _) (pairwise_listed.filter _) hperm
  intro p q hp hq hpq hqp
  have hp := root_of_mem_listed hplain hroot (List.mem_filter.mp hp).1
  have hq := root_of_mem_listed hplain' hroot' (List.mem_filter.mp hq).1
  exact Path.precedes_antisymm (hp.trans hq.symm) hpq hqp

/-- What is read off the listed paths of two trees is the same, in the same order, if both give the
same wherever one of them gives something. -/
theorem filterMap_listed_congr {α : Type} {f f' : Path → Option α}
    (h : ∀ p ∈ listed disk root fileType markers wanted, (f p).isSome = true →
      disk.found? p = disk'.found? p ∧ f p = f' p)
    (h' : ∀ p ∈ listed disk' root fileType markers wanted, (f' p).isSome = true →
      disk.found? p = disk'.found? p ∧ f p = f' p) :
    (listed disk root fileType markers wanted).filterMap f =
      (listed disk' root fileType markers wanted).filterMap f' := by
  have hfilter : (listed disk root fileType markers wanted).filter (fun p => (f p).isSome) =
      (listed disk' root fileType markers wanted).filter fun p => (f' p).isSome := by
    apply filter_listed_congr hplain hplain' hroot hroot'
    intro p
    constructor
    · rintro ⟨hp, hsome⟩
      obtain ⟨hfound, hsame⟩ := h p hp hsome
      exact ⟨(mem_listed_congr hplain hplain' hroot hroot' hfound).mp hp, hsame ▸ hsome⟩
    · rintro ⟨hp, hsome⟩
      obtain ⟨hfound, hsame⟩ := h' p hp hsome
      exact ⟨(mem_listed_congr hplain hplain' hroot hroot' hfound).mpr hp, hsame ▸ hsome⟩
  have hsame : ∀ p ∈ (listed disk' root fileType markers wanted).filter (fun p => (f' p).isSome),
      f p = f' p := by
    intro p hp
    obtain ⟨hlisted, hsome⟩ := List.mem_filter.mp hp
    exact (h' p hlisted hsome).2
  calc
    (listed disk root fileType markers wanted).filterMap f
      = ((listed disk root fileType markers wanted).filter fun p => (f p).isSome).filterMap f :=
        (filterMap_filter_isSome _ f).symm
    _ = ((listed disk' root fileType markers wanted).filter fun p => (f' p).isSome).filterMap f := by
        rw [hfilter]
    _ = ((listed disk' root fileType markers wanted).filter fun p => (f' p).isSome).filterMap f' :=
        List.filterMap_congr hsame
    _ = (listed disk' root fileType markers wanted).filterMap f' := filterMap_filter_isSome _ f'

end TwoTrees

end TestReach.SourceFiles
