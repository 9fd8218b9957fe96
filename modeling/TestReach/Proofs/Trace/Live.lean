import TestReach.Log.Setup
import TestReach.Proofs.Disk.Shape
import TestReach.Proofs.Log.Setup
import TestReach.Proofs.Trace.Irrelevance

namespace TestReach

namespace Log.Setup

variable {setup : Setup} {disk : Disk} {path : Path}

theorem sameShape_emit (h : ∀ key ∈ setup.files, ∃ bytes, disk.entry? key = some (.file bytes))
    (time : String) (record : Record) : disk.SameShape (setup.emit time disk record) := by
  have hall (keys : List Key) (disk : Disk)
      (hkeys : ∀ key ∈ keys, ∃ bytes, disk.entry? key = some (.file bytes)) :
      disk.SameShape (keys.foldl (fun disk key =>
        disk.append key (Text.Utf8.encode (record.line time))) disk) := by
    induction keys generalizing disk with
    | nil => exact .refl disk
    | cons key keys ih =>
      obtain ⟨hkey, hkeys⟩ := List.forall_mem_cons.mp hkeys
      have hfirst := Disk.SameShape.append hkey (Text.Utf8.encode (record.line time))
      exact hfirst.trans (ih _ fun key hkey => hfirst.exists_file (hkeys key hkey))
  exact hall _ disk fun key hkey => h key (mem_files_of_filesFor hkey)

theorem sameShape_emitAll (h : ∀ key ∈ setup.files, ∃ bytes, disk.entry? key = some (.file bytes))
    (records : List (String × Record)) : disk.SameShape (setup.emitAll disk records) := by
  induction records generalizing disk with
  | nil => exact .refl disk
  | cons record records ih =>
    have hfirst := sameShape_emit h record.1 record.2
    exact hfirst.trans (ih fun key hkey => hfirst.exists_file (h key hkey))

/-- What does not lie in a log file reads as before. -/
theorem readLenient_emitAll
    (h : ∀ key ∈ setup.files, ∃ bytes, disk.entry? key = some (.file bytes))
    (hpath : ∀ key ∈ setup.files, disk.locate path ≠ .ok key) (records : List (String × Record)) :
    (setup.emitAll disk records).readLenient path = disk.readLenient path := by
  have hshape := sameShape_emitAll h records
  have hgrows : disk.Grows setup.files ∅ (setup.emitAll disk records) := grows_emitAll _ _ _
  have hbytes : (setup.emitAll disk records).bytes path = disk.bytes path := by
    unfold Disk.bytes
    rw [← hshape.locate]
    cases hlocate : disk.locate path with
    | error trouble => rfl
    | ok key =>
      have hsome := Disk.isSome_entry_of_locate hlocate
      -- An entry may be new only as a directory where there was nothing, but the path led somewhere.
      have hentry : Disk.entry? (setup.emitAll disk records) key = disk.entry? key := by
        refine (hgrows.entry key fun hkey => hpath key hkey hlocate).resolve_right fun ⟨hnone, _⟩ => ?_
        rw [hnone] at hsome
        cases hsome
      simp only [bind, Except.bind, hentry]
  simp only [Disk.readLenient, Disk.textBytes, hgrows.unreadable, hbytes]

end Log.Setup

/-- Records leave the source files as they are on a disk: which there are, and what they hold. -/
structure Scanner.Steady (scanner : Scanner) (disk : Disk) (live : List Log.Record → Disk)
    (root : Path) : Prop where
  files : ∀ records, scanner.files (live records) root = scanner.files disk root
  texts : ∀ records files, scanner.files disk root = .ok files →
    ∀ path ∈ files, (live records).readLenient path = disk.readLenient path

namespace Trace

variable {scanner : Scanner} {disk : Disk} {live : List Log.Record → Disk} {root : Path}

theorem agreeOn_of_steady (h : scanner.Steady disk live root) (seen : List Log.Record)
    (turns : List Nat) (terms : List Term) :
    AgreeOn (scanner.survey disk root)
      (scanner.surveyLive (fun records => live (seen ++ records)) turns root) terms := by
  intro term _
  cases hlisted : scanner.files disk root with
  | error error =>
    rw [Scanner.survey_of_error hlisted, Scanner.surveyLive, h.files, hlisted]
    rfl
  | ok files =>
    rw [Scanner.survey_of_files hlisted, Scanner.surveyLive, h.files, hlisted]
    have hsame (path : Path) (hpath : path ∈ files) (records : List Log.Record) :
        scanner.scanFile (live (seen ++ records)) path term = scanner.scanFile disk path term :=
      Scanner.scanFile_congr (h.texts (seen ++ records) files hlisted path hpath)
    simp only [Except.map, Scanner.results_visitAll, Scanner.results_visitAllLive turns hsame]

/-- A trace that logs to no source file is that of a tree that stays as it is, whatever turns the
workers take. -/
theorem inLiveTree_alike (h : scanner.Steady disk live root) (turns : Nat → List Nat) (depth : Nat)
    (term : Term) (journal : Journal) :
    AlikeOutcomes (inTree scanner disk root depth term journal)
      (inLiveTree scanner live turns root depth term journal) :=
  runLive_alike depth term (.refl journal) fun seen =>
    agreeOn_of_steady h seen.log (turns seen.scanned.length) _

end Trace

theorem Scanner.steady_of_log {scanner : Scanner} {disk : Disk} {root : Path} {setup : Log.Setup}
    (hsetup : ∀ key ∈ setup.files, ∃ bytes, disk.entry? key = some (.file bytes))
    (hlog : ∀ files, scanner.files disk root = .ok files →
      ∀ path ∈ files, ∀ key ∈ setup.files, disk.locate path ≠ .ok key)
    (written : List Log.Record → List (String × Log.Record)) :
    scanner.Steady disk (fun records => setup.emitAll disk (written records)) root where
  files _ := (SourceFiles.list_congr (Log.Setup.sameShape_emitAll hsetup _) root _ _).symm
  texts _ files hfiles path hpath :=
    Log.Setup.readLenient_emitAll hsetup (hlog files hfiles path hpath) _

end TestReach
