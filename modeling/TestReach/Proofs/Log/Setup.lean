import TestReach.Log.Setup
import TestReach.Proofs.Disk.Changes

namespace TestReach.Log.Setup

variable {disk disk' : Disk} {path : Path} {key : Key} {trouble : Trouble} {setup : Setup}
  {ways : Set Path}

def files (setup : Setup) : Set Key :=
  {key | ∃ handler ∈ setup.handlers, handler.target = .file key}

theorem mem_files_of_filesFor {record : Record} (h : key ∈ setup.filesFor record) :
    key ∈ setup.files := by
  obtain ⟨handler, hhandler, hkey⟩ := List.mem_filterMap.mp h
  split at hkey
  · cases hkey
  · rename_i other htarget
    split at hkey
    · cases hkey
      exact ⟨handler, hhandler, htarget⟩
    · cases hkey

theorem grows_emit (setup : Setup) (time : String) (disk : Disk) (record : Record) :
    disk.Grows setup.files ways (setup.emit time disk record) := by
  have hall (keys : List Key) (hkeys : ∀ key ∈ keys, key ∈ setup.files) (disk : Disk) :
      disk.Grows setup.files ways (keys.foldl (fun disk key =>
        disk.append key (Text.Utf8.encode (record.line time))) disk) := by
    induction keys generalizing disk with
    | nil => exact .refl disk
    | cons key keys ih =>
      obtain ⟨hkey, hkeys⟩ := List.forall_mem_cons.mp hkeys
      have hfirst : disk.Grows {key} ways (disk.append key (Text.Utf8.encode (record.line time))) :=
        .append disk key _
      exact (hfirst.mono (by simpa using hkey) (Set.Subset.refl _)).trans (ih hkeys _)
  exact hall _ (fun key => mem_files_of_filesFor) disk

theorem grows_emitAll (setup : Setup) (disk : Disk) (records : List (String × Record)) :
    disk.Grows setup.files ways (setup.emitAll disk records) := by
  induction records generalizing disk with
  | nil => exact .refl disk
  | cons record records ih => exact (grows_emit setup record.1 disk record.2).trans (ih _)

theorem emitAll_append (setup : Setup) (disk : Disk) (records more : List (String × Record)) :
    setup.emitAll disk (records ++ more) = setup.emitAll (setup.emitAll disk records) more :=
  List.foldl_append

def logging (key : Key) (verbose : Bool) : Setup :=
  ⟨thresholdFor verbose, [⟨.console, thresholdFor verbose⟩, ⟨.file key, thresholdFor verbose⟩]⟩

@[simp] theorem files_logging (key : Key) (verbose : Bool) : (logging key verbose).files = {key} := by
  ext other
  simp [files, logging, eq_comm]

theorem changes_of_clear (h : clear disk path = .ok disk') :
    disk.Changes {key | disk.locate path = .ok key} ways disk' := by
  unfold clear at h
  split at h
  · cases h
    exact .refl _
  · obtain ⟨key, hlocate, hchanges⟩ := Disk.changes_of_remove h
    exact hchanges.mono (by simpa using hlocate) (Set.Subset.refl _)

theorem changes_of_prepare {result : Except Trouble Key} (h : prepare disk path = (result, disk')) :
    disk.Changes (disk.reached disk' path) {path.parent} disk' ∧
      ∀ key, result = .ok key → disk'.locate path = .ok key ∧
        ∃ bytes, disk'.entry? key = some (.file bytes) := by
  -- The path may lead to a file only once the directories on its way are made.
  have hbefore : {key | disk.locate path = .ok key} ⊆ disk.reached disk' path := fun _ => Or.inl
  unfold prepare at h
  split at h
  · cases h
    exact ⟨.refl _, by simp⟩
  rename_i cleared hclear
  have hcleared : disk.Changes (disk.reached disk' path) {path.parent} cleared :=
    (changes_of_clear hclear).mono hbefore (Set.Subset.refl _)
  have hmakes {result : Except Trouble Unit} {made : Disk}
      (hmake : cleared.makeDirectories path.parent = (result, made)) :
      disk.Changes (disk.reached disk' path) {path.parent} made :=
    hcleared.trans (Disk.grows_of_makeDirectories (Set.mem_singleton _) hmake).toChanges
  split at h
  · rename_i made hmake
    cases h
    exact ⟨hmakes hmake, by simp⟩
  rename_i made hmake
  have hmade := hmakes hmake
  split at h
  · cases h
    exact ⟨hmade, by simp⟩
  rename_i key hplace
  split at h
  · cases h
    exact ⟨hmade, by simp⟩
  · rename_i bytes hentry
    cases h
    have hlocate := Disk.locate_of_place hplace rfl (fun _ hdirectory => hdirectory)
      (by rw [hentry]; rfl)
    refine ⟨hmade, fun key hkey => ?_⟩
    cases hkey
    exact ⟨hlocate, bytes, hentry⟩
  · rename_i hentry
    cases h
    have hkey : key ≠ [] := by
      rintro rfl
      cases hentry
    have hfile : Disk.entry? (made.set key (.file [])) key = some (.file []) := by
      rw [Disk.entry?_set made hkey, if_pos rfl]
    have hgrows : made.Grows {key} {path.parent} (made.set key (.file [])) :=
      .set_file (by simp [hentry]) []
    have hlocate := Disk.locate_of_place hplace hgrows.working hgrows.directory
      (by rw [hfile]; rfl)
    have hreached : {key} ⊆ disk.reached (made.set key (.file [])) path := by
      simpa [Disk.reached] using Or.inr hlocate
    refine ⟨hmade.trans (hgrows.toChanges.mono hreached (Set.Subset.refl _)), fun other hother => ?_⟩
    cases hother
    exact ⟨hlocate, [], hfile⟩

def content (disk : Disk) (key : Key) : List UInt8 :=
  match disk.entry? key with
  | some (.file bytes) => bytes
  | _ => []

/-- What a log file holds when it is opened: nothing if the path led somewhere before, else what was
in it. -/
def kept (disk : Disk) (path : Path) (key : Key) : List UInt8 :=
  if disk.holds path then [] else content disk key

theorem entry?_of_clear {cleared : Disk} (h : clear disk path = .ok cleared)
    (hlocate : disk.locate path = .ok key) :
    disk.entry? key ≠ some .directory ∧ cleared.entry? key = none := by
  have hremove : disk.remove path = .ok cleared := by
    unfold clear at h
    split at h
    · rename_i hnot
      unfold Disk.remove at hnot
      rw [hlocate] at hnot
      rcases bind_eq_error.mp hnot with hnot | ⟨found, hfound, hnot⟩
      · cases hnot
      · split at hnot <;> cases hnot
    · exact h
  unfold Disk.remove at hremove
  obtain ⟨found, hfound, hremove⟩ := bind_eq_ok.mp hremove
  rw [hlocate] at hfound
  cases hfound
  split at hremove
  · cases hremove
  · rename_i hfile
    obtain rfl := pure_eq_ok.mp hremove
    refine ⟨hfile, ?_⟩
    have hkey : key ≠ [] := by
      rintro rfl
      exact hfile rfl
    rw [Disk.entry?, if_neg (by simpa using hkey), Disk.lookup_filter_ne, if_pos rfl]

theorem eq_of_clear {cleared : Disk} (h : clear disk path = .ok cleared)
    (hholds : disk.holds path = false) : cleared = disk := by
  unfold clear at h
  split at h
  · cases h
    rfl
  · obtain ⟨key, hlocate, -⟩ := bind_eq_ok.mp h
    rw [Disk.holds_iff.mpr ⟨key, hlocate⟩] at hholds
    cases hholds

/-- The old file is removed, then the directories are made, then the log is opened where the path
leads now. -/
theorem exists_of_prepare (h : prepare disk path = (.ok key, disk')) :
    ∃ cleared made, clear disk path = .ok cleared ∧
      cleared.makeDirectories path.parent = (.ok (), made) ∧ made.place path = .ok key ∧
      made.entry? key ≠ some .directory ∧
      disk'.entry? key = some (.file (content made key)) := by
  unfold prepare at h
  split at h
  · cases h
  rename_i cleared hclear
  split at h
  · cases h
  rename_i made hmake
  split at h
  · cases h
  rename_i place hplace
  split at h
  · cases h
  · rename_i bytes hentry
    cases h
    exact ⟨cleared, disk', hclear, hmake, hplace, by simp [hentry], by rw [content, hentry]⟩
  · rename_i hentry
    cases h
    have hkey : key ≠ [] := by
      rintro rfl
      cases hentry
    refine ⟨cleared, made, hclear, hmake, hplace, by simp [hentry], ?_⟩
    rw [content, hentry, Disk.entry?_set made hkey, if_pos rfl]

/-- A log is opened in the file that the path led to, if there was one, and begins with what is
kept. -/
theorem entry?_of_prepare (h : prepare disk path = (.ok key, disk')) :
    disk'.entry? key = some (.file (kept disk path key)) ∧
      ∀ other, disk.locate path = .ok other → other = key := by
  obtain ⟨cleared, made, hclear, hmake, hplace, hfile, hentry⟩ := exists_of_prepare h
  have hgrows : cleared.Grows ∅ {path.parent} made :=
    Disk.grows_of_makeDirectories (Set.mem_singleton _) hmake
  -- The place is no directory, so it is as it was before directories were made.
  have hsame : made.entry? key = cleared.entry? key :=
    (hgrows.entry key (Set.notMem_empty _)).resolve_right fun hnew => hfile hnew.2
  have hother (other : Key) (hlocate : disk.locate path = .ok other) :
      other = key ∧ cleared.entry? key = none := by
    obtain ⟨hplain, hnone⟩ := entry?_of_clear hclear hlocate
    have hcleared : disk.Changes {key | disk.locate path = .ok key} ∅ cleared :=
      changes_of_clear hclear
    have hthere := Disk.place_of_locate hlocate hplain (hgrows.working.trans hcleared.working)
      fun key hkey => hgrows.directory key (hcleared.directory key hkey)
    rw [hplace] at hthere
    cases hthere
    exact ⟨rfl, hnone⟩
  refine ⟨?_, fun other hlocate => (hother other hlocate).1⟩
  rw [hentry, content, hsame, kept]
  cases hholds : disk.holds path with
  | true =>
    obtain ⟨other, hlocate⟩ := Disk.holds_iff.mp hholds
    rw [(hother other hlocate).2]
    rfl
  | false =>
    rw [eq_of_clear hclear hholds]
    rfl

/-- Starting a log does no more than that. If it succeeds, records go to the file prepared. -/
theorem changes_of_start {started : Except Trouble Unit} {verbose : Bool}
    (h : start disk (some path) verbose = (started, setup, disk')) :
    disk.Changes (disk.reached disk' path) {path.parent} disk' ∧
      (started = .ok () → ∃ key, setup = logging key verbose ∧ disk'.locate path = .ok key ∧
        ∃ bytes, disk'.entry? key = some (.file bytes)) := by
  unfold start at h
  dsimp only at h
  split at h
  · rename_i hprepare
    cases h
    exact ⟨(changes_of_prepare hprepare).1, by simp⟩
  · rename_i key _ hprepare
    cases h
    obtain ⟨hchanges, hkey⟩ := changes_of_prepare hprepare
    exact ⟨hchanges, fun _ => ⟨key, rfl, hkey key rfl⟩⟩

theorem located_of_mem_files {started : Except Trouble Unit} {verbose : Bool}
    (h : start disk (some path) verbose = (started, setup, disk')) (hkey : key ∈ setup.files) :
    disk'.locate path = .ok key ∧ ∃ bytes, disk'.entry? key = some (.file bytes) := by
  cases started with
  | ok =>
    obtain ⟨prepared, rfl, hprepared⟩ := (changes_of_start h).2 rfl
    rw [files_logging, Set.mem_singleton_iff] at hkey
    rwa [hkey]
  | error trouble =>
    unfold start at h
    dsimp only at h
    split at h
    · cases h
      simp [files, console] at hkey
    · cases h

def takes (verbose : Bool) (record : Record) : Bool :=
  isOwn record.logger && (thresholdFor verbose).rank ≤ record.level.rank

theorem emit_console (verbose : Bool) (time : String) (disk : Disk) (record : Record) :
    (console verbose).emit time disk record = disk := rfl

theorem emit_logging (key : Key) (verbose : Bool) (time : String) (disk : Disk) (record : Record) :
    (logging key verbose).emit time disk record =
      if takes verbose record then disk.append key (Text.Utf8.encode (record.line time)) else disk := by
  have hfiles : (logging key verbose).filesFor record = if takes verbose record then [key] else [] := by
    cases htakes : takes verbose record <;>
      simp_all [filesFor, logging, reaches, takes]
  rw [emit, hfiles]
  split <;> rfl

end TestReach.Log.Setup
