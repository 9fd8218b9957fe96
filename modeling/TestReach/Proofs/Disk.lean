import Mathlib.Data.List.Basic
import Mathlib.Tactic.SplitIfs
import TestReach.Disk
import TestReach.Proofs.Outcome
import TestReach.Proofs.Path

namespace TestReach.Disk

variable {disk disk' : Disk} {key key' : Key} {path : Path} {name : String}
  {names more : List String}

def Plain (disk : Disk) : Prop :=
  ∀ entry ∈ disk.entries, ".." ∉ entry.1

theorem follow_nil_eq_ok : disk.follow key [] = .ok key' ↔
    key' = key ∧ (disk.entry? key).isSome = true := by
  unfold follow
  split
  · rename_i hsome
    simp [hsome, eq_comm]
  · rename_i hnone
    simp [hnone]

theorem isSome_entry_of_follow (h : disk.follow key names = .ok key') :
    (disk.entry? key').isSome = true := by
  induction names generalizing key with
  | nil =>
    obtain ⟨rfl, hsome⟩ := follow_nil_eq_ok.mp h
    exact hsome
  | cons name names ih =>
    unfold follow at h
    split at h
    · cases h
    · cases h
    split at h <;> exact ih h

theorem follow_nil_of_isSome (h : (disk.entry? key).isSome = true) : disk.follow key [] = .ok key :=
  follow_nil_eq_ok.mpr ⟨rfl, h⟩

theorem entry_of_follow_cons (h : disk.follow key (name :: names) = .ok key') :
    disk.entry? key = some .directory := by
  unfold follow at h
  split at h
  · cases h
  · cases h
  · assumption

theorem follow_cons (h : disk.entry? key = some .directory) (name : String) (names : List String) :
    disk.follow key (name :: names) =
      if name = ".." then disk.follow key.dropLast names
      else disk.follow (key ++ [name]) names := by
  rw [follow, h]
  simp only [beq_iff_eq]

theorem follow_append (h : disk.follow key names = .ok key') (more : List String) :
    disk.follow key (names ++ more) = disk.follow key' more := by
  induction names generalizing key with
  | nil =>
    obtain ⟨rfl, -⟩ := follow_nil_eq_ok.mp h
    rfl
  | cons name names ih =>
    have hdirectory := entry_of_follow_cons h
    rw [follow_cons hdirectory] at h
    rw [List.cons_append, follow_cons hdirectory]
    -- The first name leads up or down in the same way, whatever names come after the others.
    split_ifs at h ⊢ <;> exact ih h

theorem exists_follow_of_append (h : disk.follow key (names ++ name :: more) = .ok key') :
    ∃ middle, disk.follow key names = .ok middle ∧ disk.entry? middle = some .directory := by
  induction names generalizing key with
  | nil =>
    have hdirectory := entry_of_follow_cons h
    exact ⟨key, follow_nil_of_isSome (by rw [hdirectory]; rfl), hdirectory⟩
  | cons first names ih =>
    have hdirectory := entry_of_follow_cons h
    rw [List.cons_append, follow_cons hdirectory] at h
    rw [follow_cons hdirectory]
    split_ifs at h ⊢ <;> exact ih h

theorem follow_plain (h : disk.follow key names = .ok key') (hplain : ".." ∉ names) :
    key' = key ++ names := by
  induction names generalizing key with
  | nil =>
    obtain ⟨rfl, -⟩ := follow_nil_eq_ok.mp h
    simp
  | cons name names ih =>
    obtain ⟨hname, hnames⟩ := not_or.mp fun h => hplain (List.mem_cons.mpr h)
    rw [follow_cons (entry_of_follow_cons h), if_neg (Ne.symm hname)] at h
    rw [ih h hnames, List.append_assoc]
    rfl

theorem locate_eq_ok : disk.locate path = .ok key ↔
    ∃ first, disk.start path = .ok first ∧ disk.follow first path.names = .ok key :=
  bind_eq_ok

theorem isSome_entry_of_locate (h : disk.locate path = .ok key) :
    (disk.entry? key).isSome = true := by
  obtain ⟨first, -, hfollow⟩ := locate_eq_ok.mp h
  exact isSome_entry_of_follow hfollow

theorem start_eq_ok : disk.start path = .ok key ↔
    path.root ≠ "" ∧ key = [] ∨
      path.root = "" ∧ disk.follow [] disk.working = .ok key ∧ disk.entry? key = some .directory := by
  unfold start
  by_cases hroot : path.root = ""
  · rw [if_neg (by simpa using hroot), bind_eq_ok]
    constructor
    · rintro ⟨first, hfirst, h⟩
      split at h
      · rename_i hdirectory
        obtain rfl := pure_eq_ok.mp h
        exact Or.inr ⟨hroot, hfirst, hdirectory⟩
      · cases h
    · rintro (⟨hnot, -⟩ | ⟨-, hfirst, hdirectory⟩)
      · exact absurd hroot hnot
      · exact ⟨key, hfirst, by rw [hdirectory]; rfl⟩
  · rw [if_pos (by simpa using hroot)]
    simp [hroot, eq_comm]

theorem entry_of_start (h : disk.start path = .ok key) : disk.entry? key = some .directory := by
  rcases start_eq_ok.mp h with ⟨-, rfl⟩ | ⟨-, -, hdirectory⟩
  · rfl
  · exact hdirectory

theorem holds_iff : disk.holds path = true ↔ ∃ key, disk.locate path = .ok key := by
  unfold holds found?
  cases hlocate : disk.locate path with
  | error trouble => simp
  | ok key => simpa using isSome_entry_of_locate hlocate

theorem isDirectory_iff : disk.isDirectory path = true ↔
    ∃ key, disk.locate path = .ok key ∧ disk.entry? key = some .directory := by
  unfold isDirectory found?
  cases hlocate : disk.locate path with
  | error trouble => simp
  | ok key => simp

theorem holds_of_isDirectory (h : disk.isDirectory path = true) : disk.holds path = true := by
  obtain ⟨key, hlocate, -⟩ := isDirectory_iff.mp h
  exact holds_iff.mpr ⟨key, hlocate⟩

theorem holds_of_isFile (h : disk.isFile path = true) : disk.holds path = true := by
  unfold isFile at h
  unfold holds
  split at h
  · rename_i hfound
    rw [hfound]
    rfl
  · cases h

theorem isFile_eq_false_of_isDirectory (h : disk.isDirectory path = true) :
    disk.isFile path = false := by
  have hfound : disk.found? path = some .directory := by simpa [isDirectory] using h
  rw [isFile, hfound]

theorem isDirectory_of_descend (h : disk.holds (path.descend (name :: names)) = true) :
    disk.isDirectory path = true := by
  obtain ⟨key, hlocate⟩ := holds_iff.mp h
  obtain ⟨first, hfirst, hfollow⟩ := locate_eq_ok.mp hlocate
  obtain ⟨middle, hmiddle, hdirectory⟩ := exists_follow_of_append hfollow
  exact isDirectory_iff.mpr ⟨middle, locate_eq_ok.mpr ⟨first, hfirst, hmiddle⟩, hdirectory⟩

theorem isDirectory_of_isDirectory_descend (h : disk.isDirectory (path.descend names) = true) :
    disk.isDirectory path = true := by
  cases names with
  | nil => simpa using h
  | cons name names => exact isDirectory_of_descend (holds_of_isDirectory h)

theorem locate_descend (h : disk.locate path = .ok key)
    (hholds : disk.holds (path.descend names) = true) (hplain : ".." ∉ names) :
    disk.locate (path.descend names) = .ok (key ++ names) := by
  obtain ⟨key', hlocate⟩ := holds_iff.mp hholds
  obtain ⟨first, hfirst, hfollow⟩ := locate_eq_ok.mp h
  obtain ⟨_, hfirst', hfollow'⟩ := locate_eq_ok.mp hlocate
  obtain rfl := Except.ok.inj (hfirst.symm.trans hfirst')
  -- What `path` itself leads to does not matter for the names after it, so they may hold no detour
  -- although those of `path` do.
  have hrest : disk.follow key names = .ok key' := by
    rw [← follow_append hfollow]
    exact hfollow'
  rw [hlocate, follow_plain hrest hplain]

def Rooted (disk : Disk) (key : Key) : Prop :=
  ∀ above, above <+: key → above ≠ key → disk.entry? above = some .directory

theorem rooted_nil (disk : Disk) : disk.Rooted [] :=
  fun _ hbelow hne => absurd (List.prefix_nil.mp hbelow) hne

theorem Rooted.dropLast (h : disk.Rooted key) : disk.Rooted key.dropLast := by
  intro above hbelow hne
  refine h above (hbelow.trans (List.dropLast_prefix key)) ?_
  rintro rfl
  exact hne (hbelow.eq_of_length_le (by simp))

theorem Rooted.child (h : disk.Rooted key) (hkey : disk.entry? key = some .directory)
    (name : String) : disk.Rooted (key ++ [name]) := by
  intro above hbelow hne
  rcases List.prefix_concat_iff.mp hbelow with heq | hshort
  · exact absurd heq hne
  · by_cases hsame : above = key
    · rw [hsame, hkey]
    · exact h above hshort hsame

theorem Rooted.entry_dropLast (h : disk.Rooted key) (hkey : disk.entry? key = some .directory) :
    disk.entry? key.dropLast = some .directory := by
  by_cases hnil : key = []
  · subst hnil
    exact hkey
  refine h key.dropLast (List.dropLast_prefix key) fun hsame => ?_
  have hlength := congrArg List.length hsame
  have hpos := List.length_pos_iff.mpr hnil
  rw [List.length_dropLast] at hlength
  omega

theorem Rooted.follow (h : disk.Rooted key) (hfollow : disk.follow key names = .ok key') :
    disk.Rooted key' := by
  induction names generalizing key with
  | nil =>
    obtain ⟨rfl, -⟩ := follow_nil_eq_ok.mp hfollow
    exact h
  | cons name names ih =>
    have hdirectory := entry_of_follow_cons hfollow
    rw [follow_cons hdirectory] at hfollow
    split_ifs at hfollow
    · exact ih h.dropLast hfollow
    · exact ih (h.child hdirectory name) hfollow

theorem rooted_of_start (h : disk.start path = .ok key) : disk.Rooted key := by
  rcases start_eq_ok.mp h with ⟨-, rfl⟩ | ⟨-, hfollow, -⟩
  · exact rooted_nil disk
  · exact (rooted_nil disk).follow hfollow

theorem exists_parent_of_locate (h : disk.locate path = .ok key)
    (hfile : disk.entry? key ≠ some .directory) :
    ∃ above name, path.names.getLast? = some name ∧ name ≠ ".." ∧
      disk.locate path.parent = .ok above ∧ disk.entry? above = some .directory ∧
      key = above ++ [name] := by
  obtain ⟨first, hfirst, hfollow⟩ := locate_eq_ok.mp h
  cases hlast : path.names.getLast? with
  | none =>
    rw [List.getLast?_eq_none_iff.mp hlast] at hfollow
    obtain ⟨rfl, -⟩ := follow_nil_eq_ok.mp hfollow
    exact absurd (entry_of_start hfirst) hfile
  | some name =>
    have hnames : path.names = path.parent.names ++ [name] :=
      (List.dropLast_append_getLast? name hlast).symm
    rw [hnames] at hfollow
    obtain ⟨above, habove, hdirectory⟩ := exists_follow_of_append hfollow
    rw [follow_append habove, follow_cons hdirectory] at hfollow
    have hdots : name ≠ ".." := by
      rintro rfl
      rw [if_pos rfl] at hfollow
      obtain ⟨rfl, -⟩ := follow_nil_eq_ok.mp hfollow
      exact hfile (((rooted_of_start hfirst).follow habove).entry_dropLast hdirectory)
    rw [if_neg hdots] at hfollow
    exact ⟨above, name, rfl, hdots, locate_eq_ok.mpr ⟨first, hfirst, habove⟩, hdirectory,
      (follow_nil_eq_ok.mp hfollow).1⟩

theorem mem_entries_of_isSome (h : (disk.entry? key).isSome = true) (hkey : key ≠ []) :
    ∃ entry, (key, entry) ∈ disk.entries := by
  unfold entry? at h
  rw [if_neg (by simpa using hkey)] at h
  obtain ⟨⟨other, entry⟩, hmem, hsame⟩ := List.lookup_isSome_iff.mp h
  obtain rfl : key = other := beq_iff_eq.mp hsame
  exact ⟨entry, hmem⟩

theorem mem_namesIn : name ∈ disk.namesIn key ↔ ∃ entry, (key ++ [name], entry) ∈ disk.entries := by
  unfold namesIn
  rw [List.mem_filterMap]
  constructor
  · rintro ⟨⟨other, entry⟩, hmem, hname⟩
    dsimp only at hname
    split at hname
    · rename_i hkey
      simp only [Bool.and_eq_true, beq_iff_eq] at hkey
      rw [← hkey.1, List.dropLast_append_getLast? name hname]
      exact ⟨entry, hmem⟩
    · cases hname
  · rintro ⟨entry, hmem⟩
    exact ⟨_, hmem, by simp⟩

theorem mem_namesIn_of_holds_child (h : disk.locate path = .ok key)
    (hholds : disk.holds (path.child name) = true) (hname : name ≠ "..") :
    name ∈ disk.namesIn key := by
  have hplain : ".." ∉ [name] := by simpa using Ne.symm hname
  have hlocate := locate_descend h (by simpa using hholds) hplain
  exact mem_namesIn.mpr (mem_entries_of_isSome (isSome_entry_of_locate hlocate) (by simp))

theorem ne_dots_of_mem_namesIn (hplain : disk.Plain) (h : name ∈ disk.namesIn key) : name ≠ ".." := by
  rintro rfl
  obtain ⟨entry, hmem⟩ := mem_namesIn.mp h
  exact hplain _ hmem (by simp)

end TestReach.Disk
