import TestReach.Proofs.Disk.Changes
import TestReach.SourceFiles

namespace TestReach

namespace Disk

variable {disk disk' disk'' : Disk} {key : Key} {bytes : List UInt8}

/-- The same files and directories in two trees, whatever the files hold. -/
structure SameShape (disk disk' : Disk) : Prop where
  keys : disk.entries.map (·.1) = disk'.entries.map (·.1)
  directory : ∀ key, disk.entry? key = some .directory ↔ disk'.entry? key = some .directory
  working : disk.working = disk'.working

theorem SameShape.refl (disk : Disk) : disk.SameShape disk :=
  ⟨rfl, fun _ => Iff.rfl, rfl⟩

theorem SameShape.trans (h : disk.SameShape disk') (h' : disk'.SameShape disk'') :
    disk.SameShape disk'' :=
  ⟨h.keys.trans h'.keys, fun key => (h.directory key).trans (h'.directory key),
    h.working.trans h'.working⟩

theorem isSome_entry?_iff : (disk.entry? key).isSome = true ↔
    key = [] ∨ key ∈ disk.entries.map (·.1) := by
  unfold entry?
  by_cases hkey : key = []
  · simp [hkey]
  · simp [hkey, List.lookup_isSome_iff]

inductive SameKind : Option Entry → Option Entry → Prop
  | nothing : SameKind none none
  | directory : SameKind (some .directory) (some .directory)
  | file (bytes bytes' : List UInt8) : SameKind (some (.file bytes)) (some (.file bytes'))

theorem SameShape.entry (h : disk.SameShape disk') (key : Key) :
    SameKind (disk.entry? key) (disk'.entry? key) := by
  have hsome : (disk.entry? key).isSome = true ↔ (disk'.entry? key).isSome = true := by
    rw [isSome_entry?_iff, isSome_entry?_iff, h.keys]
  cases hentry : disk.entry? key with
  | none =>
    have hnone : disk'.entry? key = none := by simpa [hentry] using hsome
    rw [hnone]
    exact .nothing
  | some entry =>
    cases entry with
    | directory =>
      rw [(h.directory key).mp hentry]
      exact .directory
    | file bytes =>
      obtain ⟨entry', hentry'⟩ := Option.isSome_iff_exists.mp (hsome.mp (by rw [hentry]; rfl))
      rw [hentry']
      cases entry' with
      | directory =>
        -- A directory in one tree is one in the other, where there is a file.
        rw [(h.directory key).mpr hentry'] at hentry
        cases hentry
      | file bytes' => exact .file bytes bytes'

theorem SameShape.follow (h : disk.SameShape disk') (key : Key) (names : List String) :
    disk.follow key names = disk'.follow key names := by
  induction names generalizing key with
  | nil =>
    have hkind := h.entry key
    unfold Disk.follow
    generalize disk.entry? key = entry, disk'.entry? key = entry' at hkind ⊢
    cases hkind <;> rfl
  | cons name names ih =>
    have hkind := h.entry key
    unfold Disk.follow
    generalize disk.entry? key = entry, disk'.entry? key = entry' at hkind ⊢
    cases hkind with
    | nothing => rfl
    | file bytes bytes' => rfl
    | directory => simp only [ih]

theorem SameShape.start (h : disk.SameShape disk') (path : Path) :
    disk.start path = disk'.start path := by
  unfold Disk.start
  rw [← h.working, h.follow]
  split
  · rfl
  refine bind_congr fun key => ?_
  have hkind := h.entry key
  generalize disk.entry? key = entry, disk'.entry? key = entry' at hkind ⊢
  cases hkind <;> rfl

theorem SameShape.locate (h : disk.SameShape disk') (path : Path) :
    disk.locate path = disk'.locate path := by
  unfold Disk.locate
  rw [h.start]
  exact bind_congr fun key => h.follow key path.names

theorem SameShape.found (h : disk.SameShape disk') (path : Path) :
    SameKind (disk.found? path) (disk'.found? path) := by
  unfold Disk.found?
  rw [h.locate]
  cases disk'.locate path with
  | ok key => exact h.entry key
  | error trouble => exact .nothing

theorem SameShape.holds (h : disk.SameShape disk') (path : Path) :
    disk.holds path = disk'.holds path := by
  have hkind := h.found path
  unfold Disk.holds
  generalize disk.found? path = entry, disk'.found? path = entry' at hkind ⊢
  cases hkind <;> rfl

theorem SameShape.isDirectory (h : disk.SameShape disk') (path : Path) :
    disk.isDirectory path = disk'.isDirectory path := by
  have hkind := h.found path
  unfold Disk.isDirectory
  generalize disk.found? path = entry, disk'.found? path = entry' at hkind ⊢
  cases hkind <;> rfl

theorem SameShape.isFile (h : disk.SameShape disk') (path : Path) :
    disk.isFile path = disk'.isFile path := by
  have hkind := h.found path
  unfold Disk.isFile
  generalize disk.found? path = entry, disk'.found? path = entry' at hkind ⊢
  cases hkind <;> rfl

theorem SameShape.namesIn (h : disk.SameShape disk') (key : Key) :
    disk.namesIn key = disk'.namesIn key := by
  have hkeys (disk : Disk) : disk.namesIn key = (disk.entries.map (·.1)).filterMap fun k =>
      if k.dropLast == key && !k.isEmpty then k.getLast? else none := by
    rw [List.filterMap_map]
    rfl
  rw [hkeys, hkeys, h.keys]

theorem SameShape.set_file (h : disk.entry? key = some (.file bytes)) (more : List UInt8) :
    disk.SameShape (disk.set key (.file more)) := by
  have hkey : key ≠ [] := by
    rintro rfl
    cases h
  refine ⟨?_, fun k => ?_, (working_set _ _ _).symm⟩
  · unfold Disk.set
    split
    · rw [List.map_map]
      refine List.map_congr_left fun entry _ => ?_
      dsimp only [Function.comp_apply]
      split <;> rfl
    · rename_i hnone
      obtain ⟨entry, hentry⟩ := mem_entries_of_isSome (by rw [h]; rfl) hkey
      exact absurd (List.any_eq_true.mpr ⟨(key, entry), hentry, beq_self_eq_true key⟩) hnone
  · rw [entry?_set disk hkey]
    split
    · rename_i hk
      simp [hk, h]
    · rfl

/-- Bytes are added to files that are there: no other file is made. -/
theorem SameShape.append (h : ∃ bytes, disk.entry? key = some (.file bytes)) (more : List UInt8) :
    disk.SameShape (disk.append key more) := by
  obtain ⟨bytes, h⟩ := h
  rw [Disk.append, h]
  exact .set_file h _

theorem SameShape.exists_file (h : disk.SameShape disk')
    (hfile : ∃ bytes, disk.entry? key = some (.file bytes)) :
    ∃ bytes, disk'.entry? key = some (.file bytes) := by
  obtain ⟨bytes, hfile⟩ := hfile
  have hkind := h.entry key
  rw [hfile] at hkind
  generalize disk'.entry? key = entry at hkind ⊢
  cases hkind with
  | file _ bytes' => exact ⟨bytes', rfl⟩

end Disk

namespace SourceFiles

open Disk

variable {disk disk' : Disk}

theorem depth_congr (h : disk.SameShape disk') : depth disk = depth disk' := by
  have hkeys (disk : Disk) : depth disk = ((disk.entries.map (·.1)).map List.length).foldl max 0 := by
    rw [List.map_map]
    rfl
  rw [hkeys, hkeys, h.keys]

theorem directoriesBelow_congr (h : disk.SameShape disk') (fuel : Nat) (path : Path) :
    directoriesBelow disk fuel path = directoriesBelow disk' fuel path := by
  induction fuel generalizing path with
  | zero => rfl
  | succ fuel ih => simp only [directoriesBelow, h.locate, h.namesIn, h.isDirectory, ih]

theorem select_congr (h : disk.SameShape disk') (directoriesOnly : Bool) (way : List Step)
    (path : Path) : select disk directoriesOnly way path = select disk' directoriesOnly way path := by
  induction way generalizing path with
  | nil => rfl
  | cons step way ih =>
    have hrest : select disk directoriesOnly way = select disk' directoriesOnly way := funext ih
    simp only [select, hrest, directoriesBelow_congr h, depth_congr h, h.holds, h.isDirectory, h.locate,
      h.namesIn]

/-- Which source files there are does not depend on what files hold. -/
theorem list_congr (h : disk.SameShape disk') (root : Path) (fileType : String)
    (markers : List String) : list disk root fileType markers = list disk' root fileType markers := by
  simp only [list, h.isDirectory, h.isFile, select_congr h]

end SourceFiles
end TestReach
