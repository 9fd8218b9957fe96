import Mathlib.Data.Set.Insert
import TestReach.Proofs.Disk
import TestReach.Proofs.Outcome

namespace TestReach.Disk

variable {disk disk' disk'' : Disk} {key key' k : Key} {path : Path} {entry : Entry}
  {files files' : Set Key} {ways ways' : Set Path} {bytes : List UInt8}

def onWay (disk : Disk) (path : Path) : Set Key :=
  {key | ∃ names, names <+: path.names ∧ disk.locate { path with names } = .ok key}

/-- Where a path leads to before or after a change. -/
def reached (disk disk' : Disk) (path : Path) : Set Key :=
  {key | disk.locate path = .ok key ∨ disk'.locate path = .ok key}

/-- All entries stay but for some files, and what is new besides are directories on some ways. -/
structure Changes (files : Set Key) (ways : Set Path) (disk disk' : Disk) : Prop where
  entry : ∀ key ∉ files, disk'.entry? key = disk.entry? key ∨
    disk.entry? key = none ∧ disk'.entry? key = some .directory
  directory : ∀ key, disk.entry? key = some .directory → disk'.entry? key = some .directory
  made : ∀ key, disk'.entry? key = some .directory →
    disk.entry? key = some .directory ∨ ∃ way ∈ ways, key ∈ disk'.onWay way
  working : disk'.working = disk.working
  unreadable : disk'.unreadable = disk.unreadable

structure Grows (files : Set Key) (ways : Set Path) (disk disk' : Disk) : Prop
    extends Changes files ways disk disk' where
  holds : ∀ key, (disk.entry? key).isSome = true → (disk'.entry? key).isSome = true

theorem follow_of_directories
    (h : ∀ key, disk.entry? key = some .directory → disk'.entry? key = some .directory)
    {names : List String} (hfollow : disk.follow key names = .ok key')
    (hend : (disk'.entry? key').isSome = true) : disk'.follow key names = .ok key' := by
  induction names generalizing key with
  | nil =>
    obtain ⟨rfl, -⟩ := follow_nil_eq_ok.mp hfollow
    exact follow_nil_of_isSome hend
  | cons name names ih =>
    have hdirectory := entry_of_follow_cons hfollow
    rw [follow_cons hdirectory] at hfollow
    rw [follow_cons (h key hdirectory)]
    split_ifs at hfollow ⊢ <;> exact ih hfollow

theorem locate_of_directories (hworking : disk'.working = disk.working)
    (h : ∀ key, disk.entry? key = some .directory → disk'.entry? key = some .directory)
    (hlocate : disk.locate path = .ok key) (hend : (disk'.entry? key).isSome = true) :
    disk'.locate path = .ok key := by
  obtain ⟨first, hfirst, hfollow⟩ := locate_eq_ok.mp hlocate
  refine locate_eq_ok.mpr ⟨first, ?_, follow_of_directories h hfollow hend⟩
  have hdirectory := h first (entry_of_start hfirst)
  rw [start_eq_ok] at hfirst ⊢
  refine hfirst.imp_right fun ⟨hroot, hway, _⟩ => ⟨hroot, ?_, hdirectory⟩
  rw [hworking]
  exact follow_of_directories h hway (by rw [hdirectory]; rfl)

theorem Changes.locate (h : Changes files ways disk disk') (hlocate : disk.locate path = .ok key)
    (hend : (disk'.entry? key).isSome = true) : disk'.locate path = .ok key :=
  locate_of_directories h.working h.directory hlocate hend

theorem Grows.locate (h : Grows files ways disk disk') (hlocate : disk.locate path = .ok key) :
    disk'.locate path = .ok key :=
  h.toChanges.locate hlocate (h.holds key (isSome_entry_of_locate hlocate))

theorem Changes.stays (h : Changes files ways disk disk') (hkey : key ∉ files)
    (hentry : disk.entry? key = some entry) : disk'.entry? key = some entry := by
  rcases h.entry key hkey with hsame | ⟨hnone, -⟩
  · rw [hsame, hentry]
  · rw [hentry] at hnone
    cases hnone

theorem Changes.refl (disk : Disk) : Changes files ways disk disk where
  entry _ _ := Or.inl rfl
  directory _ h := h
  made _ h := Or.inl h
  working := rfl
  unreadable := rfl

theorem Grows.refl (disk : Disk) : Grows files ways disk disk where
  toChanges := .refl disk
  holds _ h := h

theorem Changes.mono (h : Changes files ways disk disk') (hfiles : files ⊆ files')
    (hways : ways ⊆ ways') : Changes files' ways' disk disk' where
  entry key hkey := h.entry key fun hmem => hkey (hfiles hmem)
  directory := h.directory
  made key hkey := (h.made key hkey).imp_right fun ⟨way, hway, hon⟩ => ⟨way, hways hway, hon⟩
  working := h.working
  unreadable := h.unreadable

theorem Grows.mono (h : Grows files ways disk disk') (hfiles : files ⊆ files')
    (hways : ways ⊆ ways') : Grows files' ways' disk disk' where
  toChanges := h.toChanges.mono hfiles hways
  holds := h.holds

theorem Changes.trans (h : Changes files ways disk disk') (h' : Changes files ways disk' disk'') :
    Changes files ways disk disk'' where
  entry key hkey := by
    rcases h.entry key hkey with hsame | ⟨hnone, hdirectory⟩
    · rw [← hsame]
      exact h'.entry key hkey
    · exact Or.inr ⟨hnone, h'.directory key hdirectory⟩
  directory key hkey := h'.directory key (h.directory key hkey)
  made key hkey := by
    rcases h'.made key hkey with hdirectory | hnew
    · refine (h.made key hdirectory).imp_right ?_
      -- A directory made before stays, and so does the way to it.
      rintro ⟨way, hway, names, hnames, hlocate⟩
      exact ⟨way, hway, names, hnames, h'.locate hlocate (by rw [hkey]; rfl)⟩
    · exact Or.inr hnew
  working := h'.working.trans h.working
  unreadable := h'.unreadable.trans h.unreadable

theorem Grows.trans (h : Grows files ways disk disk') (h' : Grows files ways disk' disk'') :
    Grows files ways disk disk'' where
  toChanges := h.toChanges.trans h'.toChanges
  holds key hkey := h'.holds key (h.holds key hkey)

theorem bytes_of_file (hlocate : disk.locate path = .ok key)
    (hentry : disk.entry? key = some (.file bytes)) : disk.bytes path = .ok bytes :=
  bind_eq_ok.mpr ⟨key, hlocate, by rw [hentry]; rfl⟩

theorem lookup_map_set (entries : List (Key × Entry)) (key : Key) (entry : Entry) (k : Key) :
    (entries.map fun (k, e) => if k == key then (k, entry) else (k, e)).lookup k =
      (entries.lookup k).map fun e => if k = key then entry else e := by
  induction entries with
  | nil => rfl
  | cons head rest ih =>
    obtain ⟨first, old⟩ := head
    by_cases hk : k = first
    · subst hk
      by_cases hkey : k = key <;> simp [hkey]
    · have hother : (k == first) = false := by simpa using hk
      rw [List.lookup_cons, hother, ← ih, List.map_cons]
      dsimp only
      split <;> rw [List.lookup_cons, hother]

theorem lookup_set (disk : Disk) (key : Key) (entry : Entry) (k : Key) :
    (disk.set key entry).entries.lookup k =
      if k = key then some entry else disk.entries.lookup k := by
  unfold set
  split
  · rename_i hany
    rw [lookup_map_set]
    by_cases hk : k = key
    · subst hk
      have hsome : (disk.entries.lookup k).isSome = true := by
        obtain ⟨found, hfound, hsame⟩ := List.any_eq_true.mp hany
        exact List.lookup_isSome_iff.mpr ⟨found, hfound, by rwa [BEq.comm]⟩
      obtain ⟨old, hold⟩ := Option.isSome_iff_exists.mp hsome
      simp [hold]
    · simp [hk]
  · rename_i hany
    rw [List.lookup_append]
    by_cases hk : k = key
    · subst hk
      have hnone : disk.entries.lookup k = none := by
        rw [List.lookup_eq_none_iff]
        intro found hfound
        rw [bne_iff_ne]
        rintro rfl
        exact hany (List.any_eq_true.mpr ⟨found, hfound, beq_self_eq_true _⟩)
      simp [hnone]
    · have hother : (k == key) = false := by simpa using hk
      simp [hk, List.lookup_cons, hother]

theorem entry?_set (disk : Disk) (hkey : key ≠ []) (entry : Entry) (k : Key) :
    Disk.entry? (disk.set key entry) k = if k = key then some entry else disk.entry? k := by
  unfold entry?
  rw [lookup_set]
  by_cases hk : k = []
  · subst hk
    simp [Ne.symm hkey]
  · simp [hk]

theorem working_set (disk : Disk) (key : Key) (entry : Entry) :
    (disk.set key entry).working = disk.working := by
  unfold set
  split <;> rfl

theorem unreadable_set (disk : Disk) (key : Key) (entry : Entry) :
    (disk.set key entry).unreadable = disk.unreadable := by
  unfold set
  split <;> rfl

theorem entry?_nil (disk : Disk) : disk.entry? [] = some .directory := rfl

theorem Grows.set_file (h : disk.entry? key ≠ some .directory) (bytes : List UInt8) :
    Grows {key} ways disk (disk.set key (.file bytes)) := by
  have hkey : key ≠ [] := by
    rintro rfl
    exact h (entry?_nil disk)
  refine ⟨⟨fun k hk => Or.inl ?_, fun k hk => ?_, fun k hk => Or.inl ?_, working_set _ _ _,
    unreadable_set _ _ _⟩, fun k hk => ?_⟩
  · rw [entry?_set disk hkey, if_neg (by simpa using hk)]
  · rw [entry?_set disk hkey, if_neg, hk]
    rintro rfl
    exact h hk
  · rw [entry?_set disk hkey] at hk
    split at hk
    · cases hk
    · exact hk
  · rw [entry?_set disk hkey]
    split
    · rfl
    · exact hk

theorem Grows.set_directory (h : disk.entry? key = none) {way : Path} (hway : way ∈ ways)
    (hon : key ∈ (disk.set key .directory).onWay way) :
    Grows files ways disk (disk.set key .directory) := by
  have hkey : key ≠ [] := by
    rintro rfl
    cases h
  have hentry (k : Key) : Disk.entry? (disk.set key .directory) k =
      if k = key then some .directory else disk.entry? k := entry?_set disk hkey .directory k
  refine ⟨⟨fun k _ => ?_, fun k hk => ?_, fun k hk => ?_, working_set _ _ _, unreadable_set _ _ _⟩,
    fun k hk => ?_⟩
  · by_cases hk : k = key
    · subst hk
      exact Or.inr ⟨h, by rw [hentry, if_pos rfl]⟩
    · exact Or.inl (by rw [hentry, if_neg hk])
  · rw [hentry, hk, ite_self]
  · by_cases hsame : k = key
    · subst hsame
      exact Or.inr ⟨way, hway, hon⟩
    · rw [hentry, if_neg hsame] at hk
      exact Or.inl hk
  · rw [hentry]
    split
    · rfl
    · exact hk

theorem Grows.append (disk : Disk) (key : Key) (bytes : List UInt8) :
    Grows {key} ways disk (disk.append key bytes) := by
  unfold Disk.append
  cases hentry : disk.entry? key with
  | none => exact .set_file (by simp [hentry]) bytes
  | some entry =>
    cases entry with
    | directory => exact .refl disk
    | file old => exact .set_file (by simp [hentry]) _

theorem entry?_append (h : disk.entry? key = some (.file bytes)) (more : List UInt8) :
    Disk.entry? (disk.append key more) key = some (.file (bytes ++ more)) := by
  have hkey : key ≠ [] := by
    rintro rfl
    cases h
  rw [Disk.append, h]
  dsimp only
  rw [entry?_set disk hkey, if_pos rfl]

theorem lookup_filter_ne (entries : List (Key × Entry)) (key k : Key) :
    (entries.filter (·.1 != key)).lookup k = if k = key then none else entries.lookup k := by
  induction entries with
  | nil => simp
  | cons head rest ih =>
    obtain ⟨first, old⟩ := head
    by_cases hfirst : first = key
    · subst hfirst
      rw [List.filter_cons_of_neg (by simp), ih]
      split
      · rfl
      · rename_i hk
        have hother : (k == first) = false := by simpa using hk
        rw [List.lookup_cons, hother]
    · rw [List.filter_cons_of_pos (by simpa using hfirst), List.lookup_cons, List.lookup_cons, ih]
      by_cases hk : k = first
      · subst hk
        simp [hfirst]
      · have hother : (k == first) = false := by simpa using hk
        rw [hother]

theorem changes_of_remove (h : disk.remove path = .ok disk') :
    ∃ key, disk.locate path = .ok key ∧ Changes {key} ways disk disk' := by
  unfold remove at h
  obtain ⟨key, hlocate, h⟩ := bind_eq_ok.mp h
  refine ⟨key, hlocate, ?_⟩
  split at h
  · cases h
  · rename_i hfile
    cases h
    have hkey : key ≠ [] := by
      rintro rfl
      exact hfile rfl
    have hentry (k : Key) :
        Disk.entry? { disk with entries := disk.entries.filter (·.1 != key) } k =
          if k = key then none else disk.entry? k := by
      unfold entry?
      rw [lookup_filter_ne]
      by_cases hk : k = []
      · subst hk
        simp [Ne.symm hkey]
      · simp [hk]
    refine ⟨fun k hk => Or.inl (by rw [hentry, if_neg (by simpa using hk)]), fun k hk => ?_,
      fun k hk => Or.inl ?_, rfl, rfl⟩
    · rw [hentry k, if_neg, hk]
      rintro rfl
      exact hfile hk
    · rw [hentry k] at hk
      split at hk
      · cases hk
      · exact hk

theorem locate_of_place (hplace : disk.place path = .ok key)
    (hworking : disk'.working = disk.working)
    (h : ∀ key, disk.entry? key = some .directory → disk'.entry? key = some .directory)
    (hend : (disk'.entry? key).isSome = true) : disk'.locate path = .ok key := by
  unfold place at hplace
  split at hplace
  · exact locate_of_directories hworking h hplace hend
  rename_i name hname
  split at hplace
  · exact locate_of_directories hworking h hplace hend
  rename_i hdots
  have hdots : name ≠ ".." := by simpa using hdots
  obtain ⟨above, hparent, hplace⟩ := bind_eq_ok.mp hplace
  split at hplace
  · rename_i hdirectory
    obtain rfl := pure_eq_ok.mp hplace
    have habove := h above hdirectory
    have hparent' := locate_of_directories hworking h hparent (by rw [habove]; rfl)
    obtain ⟨first, hfirst, hfollow⟩ := locate_eq_ok.mp hparent'
    have hnames : path.names = path.parent.names ++ [name] :=
      (List.dropLast_append_getLast? name hname).symm
    refine locate_eq_ok.mpr ⟨first, hfirst, ?_⟩
    rw [hnames, follow_append hfollow, follow_cons habove, if_neg hdots]
    exact follow_nil_of_isSome hend
  · cases hplace

theorem place_of_locate (h : disk.locate path = .ok key)
    (hfile : disk.entry? key ≠ some .directory) (hworking : disk'.working = disk.working)
    (hdirectory : ∀ key, disk.entry? key = some .directory → disk'.entry? key = some .directory) :
    disk'.place path = .ok key := by
  obtain ⟨above, name, hlast, hdots, hparent, habove, rfl⟩ := exists_parent_of_locate h hfile
  have habove' := hdirectory above habove
  have hparent' : disk'.locate path.parent = .ok above :=
    locate_of_directories hworking hdirectory hparent (by rw [habove']; rfl)
  unfold place
  rw [hlast]
  dsimp only
  rw [if_neg (by simpa using hdots), hparent']
  exact bind_eq_ok.mpr ⟨above, rfl, by rw [habove']; rfl⟩

theorem grows_of_makeFrom {root : String} {made names : List String}
    {result : Except Trouble Unit} (hway : (⟨root, made ++ names⟩ : Path) ∈ ways)
    (h : makeFrom root disk made names = (result, disk')) : Grows files ways disk disk' := by
  -- Names pass from those to be made to those that are made, and the way as a whole stays the same.
  induction names generalizing disk made with
  | nil =>
    cases h
    exact .refl _
  | cons name names ih =>
    have hnext : (⟨root, made ++ [name] ++ names⟩ : Path) ∈ ways := by simpa using hway
    unfold makeFrom at h
    cases hplace : disk.place ⟨root, made ++ [name]⟩ with
    | error trouble =>
      rw [hplace] at h
      cases h
      exact .refl _
    | ok key =>
      simp only [hplace] at h
      cases hentry : disk.entry? key with
      | some entry =>
        cases entry with
        | directory =>
          simp only [hentry] at h
          exact ih hnext h
        | file bytes =>
          simp only [hentry] at h
          cases h
          exact .refl _
      | none =>
        simp only [hentry] at h
        have hkey : key ≠ [] := by
          rintro rfl
          cases hentry
        have hnew : Disk.entry? (disk.set key .directory) key = some .directory := by
          rw [entry?_set disk hkey, if_pos rfl]
        have hlocate : (disk.set key .directory).locate ⟨root, made ++ [name]⟩ = .ok key :=
          locate_of_place hplace (working_set _ _ _)
            (fun k hk => by rw [entry?_set disk hkey, hk, ite_self]) (by rw [hnew]; rfl)
        have hon : key ∈ (disk.set key .directory).onWay ⟨root, made ++ name :: names⟩ :=
          ⟨made ++ [name], by simp, hlocate⟩
        exact (Grows.set_directory hentry hway hon).trans (ih hnext h)

theorem grows_of_makeDirectories {result : Except Trouble Unit} (hway : path ∈ ways)
    (h : disk.makeDirectories path = (result, disk')) : Grows files ways disk disk' :=
  grows_of_makeFrom hway h

end TestReach.Disk
