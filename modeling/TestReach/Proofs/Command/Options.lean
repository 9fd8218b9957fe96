import TestReach.Proofs.Command.Search
import TestReach.Proofs.Settings

namespace TestReach.Command

open Settings

variable {request : SearchRequest} {surroundings : Surroundings} {settings : Settings}
  {console : Console}

theorem run_eq_work (hload : Settings.load console.disk surroundings.configFile request.config =
      .ok settings) :
    (request.run surroundings).run console =
      (request.work surroundings settings (makeScanner settings request.fileType request.workers)
        (setting (settings.chosenDepth request.depth))).run console := by
  rw [SearchRequest.run, run_bind, run_loadSettings hload]

/-- What a configuration says about a search that is asked for nothing. -/
structure Usual (configuration : Toml.Table) (fileType : String) (workers depth : Int) : Prop where
  fileType : configured configuration .fileType = .text fileType
  workers : (configured configuration .workers).Counts workers
  depth : (configured configuration .depth).Counts depth

/-- The search goes on with a scanner, or ends where it has none, and traces to a depth. -/
def Follows (request : SearchRequest) (surroundings : Surroundings) (settings : Settings)
    (console : Console) (made : Except Settings.Invalid Scanner) (workers depth : Int) : Prop :=
  (request.run surroundings).run console =
    (request.work surroundings settings
      (match made with
        | .ok scanner => pure scanner
        | .error _ => report (Scanner.Invalid.workersMessage workers))
      (pure depth)).run console

theorem follows_of_makes {configuration : Toml.Table} {fileType : String} {workers depth : Int}
    (hload : Settings.load console.disk surroundings.configFile request.config = .ok settings)
    (hdepth : settings.chosenDepth request.depth = .ok depth)
    (hmakes : Makes configuration fileType workers
      (settings.scanner request.fileType request.workers)) :
    Follows request surroundings settings console
      (settings.scanner request.fileType request.workers) workers depth := by
  unfold Follows
  rw [run_eq_work hload, makeScanner, hdepth]
  cases hmade : settings.scanner request.fileType request.workers with
  | ok scanner => rfl
  | error error =>
    rw [hmade] at hmakes
    rcases error with error | error | count
    · exact hmakes.elim
    · exact hmakes.elim
    · rw [hmakes.2]
      rfl

/-- An option goes before the last table that has its setting, and that before the standard value,
whatever else is configured; but an option counts as given only if it is not empty or zero, where it
says the type of files or the number of workers. There is a scanner unless the number of workers that
is chosen so is less than one. -/
theorem options_over_configuration {configuration : Toml.Table} (h : Proper configuration) :
    ∃ settings fileType workers depth, ofConfiguration configuration = .ok settings ∧
      (∀ setting, settings.value setting = configured configuration setting) ∧
      Usual configuration fileType workers depth ∧
      (∀ asked, optionOver "" asked fileType = asked.getD fileType ↔ (asked = some "" → fileType = "")) ∧
      (∀ asked, optionOver 0 asked workers = asked.getD workers ↔ (asked = some 0 → workers = 0)) ∧
      (∀ askedType askedWorkers, Makes configuration (optionOver "" askedType fileType)
        (optionOver 0 askedWorkers workers) (settings.scanner askedType askedWorkers)) ∧
      ∀ (request : SearchRequest) (surroundings : Surroundings) (console : Console),
        Settings.load console.disk surroundings.configFile request.config = .ok settings →
        Follows request surroundings settings console
          (settings.scanner request.fileType request.workers)
          (optionOver 0 request.workers workers) (request.depth.getD depth) := by
  obtain ⟨settings, hsettings, hvalue⟩ := h.exists_settings
  obtain ⟨fileType, htype⟩ := h.admits_configured .fileType
  obtain ⟨workers, hworkers⟩ := h.admits_configured .workers
  obtain ⟨depth, hdepth⟩ := h.admits_configured .depth
  have hmakes (askedType : Option String) (askedWorkers : Option Int) :=
    h.makes_scanner hvalue htype hworkers askedType askedWorkers
  refine ⟨settings, fileType, workers, depth, hsettings, hvalue, ⟨htype, hworkers, hdepth⟩,
    fun _ => optionOver_eq_iff, fun _ => optionOver_eq_iff, hmakes, ?_⟩
  intro request surroundings console hload
  exact follows_of_makes hload (chosenDepth_eq (by rwa [hvalue]) request.depth) (hmakes _ _)

namespace Sample

/-- A later table sets the number of workers again, and something that is no setting. -/
def twice : Toml.Table :=
  [("search", .table [("file_type", .text ".txt"), ("workers", .integer 2), ("depth", .integer 3)]),
    ("report", .table [("workers", .integer 8), ("colour", .text "red")])]

theorem proper_twice : Proper twice where
  tables name hname value hlookup := by
    simp only [tableNames, List.mem_cons, List.not_mem_nil, or_false] at hname
    rcases hname with rfl | rfl | rfl
    · exact ⟨_, (Option.some.inj hlookup).symm⟩
    · cases hlookup
    · exact ⟨_, (Option.some.inj hlookup).symm⟩
  values name hname setting value hvalue := by
    simp only [tableNames, List.mem_cons, List.not_mem_nil, or_false] at hname
    rcases hname with rfl | rfl | rfl <;> cases setting <;>
      simp [tableAt, twice, List.lookup_cons, Setting.name] at hvalue <;>
      rw [hvalue] <;> first | exact ⟨_, .integer _⟩ | exact ⟨_, rfl⟩

def configuredDisk : Disk where
  entries := [(["r"], .directory), (["config.toml"], .file
    ("[search]\nfile_type = '.txt'\nworkers = 2\ndepth = 3\n" ++
      "[report]\nworkers = 8\ncolour = 'red'\n").toUTF8.toList)]

def isTwice : Except LoadError Toml.Table → Bool
  | .ok [("search", .table [("file_type", .text ".txt"), ("workers", .integer 2),
      ("depth", .integer 3)]), ("report", .table [("workers", .integer 8),
      ("colour", .text "red")])] => true
  | _ => false

theorem configuration_eq :
    Settings.configuration configuredDisk morning.configFile = .ok twice := by
  have hread : isTwice (Settings.configuration configuredDisk morning.configFile) = true := by
    decide +kernel
  unfold isTwice at hread
  split at hread
  · assumption
  · cases hread

def threeWorkers : SearchRequest where
  pattern := "x"
  directory := ⟨"", ["r"]⟩
  workers := some 3

end Sample

/-- The number of workers that is asked for is taken, and the type and the depth that are set. -/
theorem three_workers_over_settings :
    Proper Sample.twice ∧ ∃ settings scanner,
      Settings.load Sample.configuredDisk Sample.morning.configFile none = .ok settings ∧
      settings.scanner none (some 3) = .ok scanner ∧ scanner.workers = 3 ∧
      scanner.fileType = ".txt" ∧
      (Sample.threeWorkers.run Sample.morning).run { disk := Sample.configuredDisk } =
        (Sample.threeWorkers.work Sample.morning settings (pure scanner) (pure 3)).run
          { disk := Sample.configuredDisk } := by
  refine ⟨Sample.proper_twice, ?_⟩
  obtain ⟨settings, fileType, workers, depth, hsettings, -, husual, -, -, hmakes, hfollows⟩ :=
    options_over_configuration Sample.proper_twice
  have hload : Settings.load Sample.configuredDisk Sample.morning.configFile none =
      .ok settings := by
    have hfile : Settings.ofFile Sample.configuredDisk Sample.morning.configFile =
        .ok settings := by
      rw [Settings.ofFile, Sample.configuration_eq]
      exact (mapError_eq_ok (f := LoadError.noTable)).mpr hsettings
    rw [Settings.load]
    exact hfile
  obtain rfl : ".txt" = fileType := Toml.Value.text.inj husual.fileType
  have hdepth : depth = 3 := by
    have hcounts := husual.depth
    cases hcounts
    rfl
  subst hdepth
  obtain ⟨scanner, hscanner, hworkers, htype, -⟩ :=
    (hmakes none (some 3)).exists_scanner (Int.le_of_lt (by decide : (1 : Int) < 3))
  have hrun := hfollows Sample.threeWorkers Sample.morning { disk := Sample.configuredDisk } hload
  change Follows _ _ _ _ (settings.scanner none (some 3)) _ _ at hrun
  rw [hscanner] at hrun
  exact ⟨settings, scanner, hload, hscanner, Int.ofNat.inj hworkers, htype, hrun⟩

/-- No workers are not refused, and an empty type is not taken: where nothing is configured, the
standard values are in their place. -/
theorem zero_workers_not_refused : ofConfiguration [] = .ok standard ∧
    (∃ scanner, standard.scanner none (some 0) = .ok scanner ∧ scanner.workers = 4) ∧
    ∃ scanner, standard.scanner (some "") none = .ok scanner ∧ scanner.fileType = ".py" := by
  have hproper : Proper [] :=
    ⟨fun _ _ _ hlookup => (nomatch hlookup), fun _ _ _ _ hvalue => (nomatch hvalue)⟩
  have hmakes (askedType : Option String) (askedWorkers : Option Int) :
      Makes [] (optionOver "" askedType ".py") (optionOver 0 askedWorkers 4)
        (standard.scanner askedType askedWorkers) :=
    hproper.makes_scanner (fun _ => rfl) rfl (.integer 4) askedType askedWorkers
  obtain ⟨first, hfirst, hworkers, -⟩ := (hmakes none (some 0)).exists_scanner (by decide)
  obtain ⟨second, hsecond, -, htype, -⟩ := (hmakes (some "") none).exists_scanner (by decide)
  exact ⟨rfl, ⟨first, hfirst, Int.ofNat.inj hworkers⟩, second, hsecond, htype⟩

end TestReach.Command
