import TestReach.Proofs.Outcome
import TestReach.Settings

namespace TestReach

inductive Toml.Value.Counts : Toml.Value → Int → Prop where
  | integer (value : Int) : Counts (.integer value) value
  | yes : Counts (.boolean true) 1
  | no : Counts (.boolean false) 0

namespace Rule

def Reads (role : Role) (value : Toml.Value) (compiled : Pattern) : Prop :=
  ∃ source, value = .text source ∧ compile role source = .ok compiled

def ReadsAll (role : Role) (value : Toml.Value) (compiled : List Pattern) : Prop :=
  ∃ sources : List String, value = .list (sources.map .text) ∧
    sources.mapM (compile role) = .ok compiled

end Rule

namespace Setting

inductive Form where
  | text
  | integer
  | texts
  | pattern (role : Rule.Role)
  | patterns (role : Rule.Role)
  | optional

def form : Setting → Form
  | fileType | logFile | outFile | directory | opening | project | scriptUrl => .text
  | depth | workers => .integer
  | generatedMarkers | approvedStatuses => .texts
  | declarationPattern => .pattern .declaration
  | ignoredRoutines => .patterns .ignoredRoutine
  | identifierPattern => .pattern .identifier
  | setupPattern => .pattern .setup
  | estimatePattern => .pattern .estimate
  | template => .optional

def Form.Admits : Form → Toml.Value → Prop
  | text, value => ∃ text, value = .text text
  | integer, value => ∃ number, value.Counts number
  | texts, value => ∃ texts : List String, value = .list (texts.map .text)
  | pattern role, value => ∃ compiled, Rule.Reads role value compiled
  | patterns role, value => ∃ compiled, Rule.ReadsAll role value compiled
  | optional, value => value = .nothing ∨ ∃ text, value = .text text

theorem admits_standard (setting : Setting) : setting.form.Admits setting.standard := by
  cases setting with
  | depth | workers => exact ⟨_, .integer _⟩
  | generatedMarkers | approvedStatuses => exact ⟨_, rfl⟩
  | declarationPattern | ignoredRoutines | identifierPattern | setupPattern | estimatePattern =>
    exact ⟨_, _, rfl, rfl⟩
  | template => exact .inl rfl
  | _ => exact ⟨_, rfl⟩

theorem named?_name (setting : Setting) : named? setting.name = some setting := by
  cases setting <;> rfl

theorem name_of_named? {name : String} {setting : Setting} (h : named? name = some setting) :
    setting.name = name := by
  simpa using List.find?_some h

end Setting

namespace Settings

variable {configuration table : Toml.Table} {settings : Settings} {setting : Setting}
  {fileType : String} {workers : Int}

def valueIn (setting : Setting) (table : Toml.Table) : Option Toml.Value :=
  table.reverse.lookup setting.name

theorem value_overlay_singleton (settings : Settings) (name : String) (value : Toml.Value)
    (setting : Setting) : (settings.overlay [(name, value)]).value setting =
      if setting.name = name then value else settings.value setting := by
  rw [overlay, List.foldl_cons, List.foldl_nil]
  dsimp only
  split
  · rename_i named hnamed
    obtain rfl := Setting.name_of_named? hnamed
    by_cases h : setting = named
    · rw [if_pos (congrArg Setting.name h)]
      exact if_pos h
    · have hname : setting.name ≠ named.name := fun hname => h <| Option.some.inj <| by
        rw [← Setting.named?_name, ← Setting.named?_name, hname]
      rw [if_neg hname]
      exact if_neg h
  · rename_i hnamed
    rw [if_neg]
    rintro rfl
    rw [Setting.named?_name] at hnamed
    cases hnamed

theorem value_overlay (settings : Settings) (table : Toml.Table) (setting : Setting) :
    (settings.overlay table).value setting = (valueIn setting table).getD (settings.value setting) := by
  induction table generalizing settings with
  | nil => rfl
  | cons entry table ih =>
    obtain ⟨name, value⟩ := entry
    have hlast : valueIn setting ((name, value) :: table) =
        (valueIn setting table).or (if setting.name = name then some value else none) := by
      rw [valueIn, List.reverse_cons, List.lookup_append, List.lookup_cons, List.lookup_nil]
      cases h : setting.name == name with
      | true => rw [if_pos (beq_iff_eq.mp h), valueIn]
      | false => rw [if_neg (beq_eq_false_iff_ne.mp h), valueIn]
    have hfirst : settings.overlay ((name, value) :: table) =
        (settings.overlay [(name, value)]).overlay table := rfl
    rw [hfirst, ih, value_overlay_singleton, hlast]
    cases valueIn setting table with
    | some value => rfl
    | none => by_cases h : setting.name = name <;> simp [h]

theorem value_foldl_overlay (settings : Settings) (tables : List Toml.Table) (setting : Setting) :
    (tables.foldl overlay settings).value setting =
      (tables.reverse.findSome? (valueIn setting)).getD (settings.value setting) := by
  induction tables generalizing settings with
  | nil => rfl
  | cons table tables ih =>
    rw [List.foldl_cons, ih, value_overlay, List.reverse_cons, List.findSome?_append,
      List.findSome?_cons, List.findSome?_nil]
    cases tables.reverse.findSome? (valueIn setting) with
    | some value => rfl
    | none => cases valueIn setting table <;> rfl

/-- The table of this name in a configuration, empty if there is none. -/
def tableAt (configuration : Toml.Table) (name : String) : Toml.Table :=
  match configuration.lookup name with
  | some (.table entries) => entries
  | _ => []

/-- The value of a setting under a configuration: what the last of the tables that name it says, or
else the standard one. -/
def configured (configuration : Toml.Table) (setting : Setting) : Toml.Value :=
  (tableNames.reverse.findSome? fun name =>
    valueIn setting (tableAt configuration name)).getD setting.standard

/-- The tables of settings are tables, and what they say about settings is as it should be. They may
say anything besides, and there may be any others. -/
structure Proper (configuration : Toml.Table) : Prop where
  tables : ∀ name ∈ tableNames, ∀ value, configuration.lookup name = some value →
    ∃ entries, value = .table entries
  values : ∀ name ∈ tableNames, ∀ (setting : Setting) (value : Toml.Value),
    (setting.name, value) ∈ tableAt configuration name → setting.form.Admits value

theorem Proper.tableOf_eq (h : Proper configuration) {name : String} (hname : name ∈ tableNames) :
    tableOf configuration name = .ok (tableAt configuration name) := by
  unfold tableOf tableAt
  cases hlookup : configuration.lookup name with
  | none => rfl
  | some value =>
    obtain ⟨entries, rfl⟩ := h.tables name hname value hlookup
    rfl

theorem Proper.exists_settings (h : Proper configuration) :
    ∃ settings, ofConfiguration configuration = .ok settings ∧
      ∀ setting, settings.value setting = configured configuration setting := by
  have htables : tableNames.mapM (tableOf configuration) =
      .ok (tableNames.map (tableAt configuration)) :=
    mapM_eq_ok fun name hname => h.tableOf_eq hname
  refine ⟨(tableNames.map (tableAt configuration)).foldl overlay standard, ?_, fun setting => ?_⟩
  · rw [ofConfiguration, htables]
    rfl
  · rw [value_foldl_overlay, ← List.map_reverse, List.findSome?_map]
    rfl

theorem mem_of_valueIn {value : Toml.Value} (h : valueIn setting table = some value) :
    (setting.name, value) ∈ table := by
  obtain ⟨before, after, heq, -⟩ := List.lookup_eq_some_iff.mp h
  rw [← List.mem_reverse, heq]
  simp

theorem Proper.admits_configured (h : Proper configuration) (setting : Setting) :
    setting.form.Admits (configured configuration setting) := by
  unfold configured
  cases hfind : tableNames.reverse.findSome? fun name =>
      valueIn setting (tableAt configuration name) with
  | none => exact setting.admits_standard
  | some value =>
    obtain ⟨name, hname, hvalue⟩ := List.exists_of_findSome?_eq_some hfind
    exact h.values name (List.mem_reverse.mp hname) setting value (mem_of_valueIn hvalue)

theorem text_eq {text : String} (h : settings.value setting = .text text) :
    settings.text setting = .ok text := by
  rw [Settings.text, h]

theorem integer_eq {number : Int} (h : (settings.value setting).Counts number) :
    settings.integer setting = .ok number := by
  unfold integer
  generalize settings.value setting = value at h
  cases h <;> rfl

theorem texts_eq {texts : List String} (h : settings.value setting = .list (texts.map .text)) :
    settings.texts setting = .ok texts := by
  rw [Settings.texts, h, texts.listOf, List.mapM_map]
  exact (mapM_eq_ok (g := id) fun _ _ => rfl).trans (by rw [List.map_id])

theorem declarations_eq {pattern : Pattern} {ignored : List Pattern}
    (hpattern : Rule.Reads .declaration (settings.value .declarationPattern) pattern)
    (hignored : Rule.ReadsAll .ignoredRoutine (settings.value .ignoredRoutines) ignored) :
    settings.declarations = .ok ⟨pattern, ignored⟩ := by
  obtain ⟨source, hsource, hcompile⟩ := hpattern
  obtain ⟨sources, hsources, hall⟩ := hignored
  have hrules : DeclarationRules.compile source sources = .ok ⟨pattern, ignored⟩ := by
    rw [DeclarationRules.compile, hcompile]
    exact bind_eq_ok.mpr ⟨_, rfl, bind_eq_ok.mpr ⟨_, hall, rfl⟩⟩
  rw [declarations, text_eq hsource, texts_eq hsources]
  exact mapError_eq_ok.mpr hrules

theorem testCases_eq {directory opening : String} {identifier setup estimate : Pattern}
    (hdirectory : settings.value .directory = .text directory)
    (hopening : settings.value .opening = .text opening)
    (hidentifier : Rule.Reads .identifier (settings.value .identifierPattern) identifier)
    (hsetup : Rule.Reads .setup (settings.value .setupPattern) setup)
    (hestimate : Rule.Reads .estimate (settings.value .estimatePattern) estimate)
    (fileType : String) : settings.testCases fileType =
      .ok ⟨⟨directory, opening, fileType⟩, identifier, setup, estimate⟩ := by
  obtain ⟨identifierSource, hidentifierText, hidentifier⟩ := hidentifier
  obtain ⟨setupSource, hsetupText, hsetup⟩ := hsetup
  obtain ⟨estimateSource, hestimateText, hestimate⟩ := hestimate
  have hrules : TestCase.Rules.compile ⟨directory, opening, fileType⟩ identifierSource setupSource
      estimateSource = .ok ⟨⟨directory, opening, fileType⟩, identifier, setup, estimate⟩ := by
    rw [TestCase.Rules.compile, hidentifier, hsetup, hestimate]
    rfl
  simp only [testCases, text_eq hdirectory, text_eq hopening, text_eq hidentifierText,
    text_eq hsetupText, text_eq hestimateText]
  exact mapError_eq_ok.mpr hrules

/-- An option over what is usual. The empty value, of its kind, is as good as no option. -/
def optionOver {α : Type} [BEq α] (empty : α) (asked : Option α) (usual : α) : α :=
  (asked.filter (· != empty)).getD usual

theorem optionOver_eq_iff {α : Type} [BEq α] [LawfulBEq α] {empty usual : α} {asked : Option α} :
    optionOver empty asked usual = asked.getD usual ↔ (asked = some empty → usual = empty) := by
  cases asked with
  | none => simp [optionOver]
  | some asked =>
    cases h : asked == empty with
    | true =>
      obtain rfl := beq_iff_eq.mp h
      simp [optionOver, Option.filter]
    | false => simp [optionOver, Option.filter, bne, h, beq_eq_false_iff_ne.mp h]

theorem chosenFileType_eq (h : settings.value .fileType = .text fileType) (asked : Option String) :
    settings.chosenFileType asked = .ok (optionOver "" asked fileType) := by
  unfold chosenFileType optionOver
  cases asked.filter (· != "") with
  | some asked => rfl
  | none => exact text_eq h

theorem chosenWorkers_eq (h : (settings.value .workers).Counts workers) (asked : Option Int) :
    settings.chosenWorkers asked = .ok (optionOver 0 asked workers) := by
  unfold chosenWorkers optionOver
  cases asked.filter (· != 0) with
  | some asked => rfl
  | none => exact integer_eq h

theorem chosenDepth_eq {depth : Int} (h : (settings.value .depth).Counts depth)
    (asked : Option Int) : settings.chosenDepth asked = .ok (asked.getD depth) := by
  cases asked with
  | some asked => rfl
  | none => exact integer_eq h

/-- A scanner works as a configuration says. The type of its files and the number of its workers are
left open, but that test cases have that type. -/
structure ConfiguredBy (configuration : Toml.Table) (scanner : Scanner) : Prop where
  declaration : Rule.Reads .declaration (configured configuration .declarationPattern)
    scanner.declarations.pattern
  ignored : Rule.ReadsAll .ignoredRoutine (configured configuration .ignoredRoutines)
    scanner.declarations.ignored
  directory : configured configuration .directory = .text scanner.testCases.layout.directory
  opening : configured configuration .opening = .text scanner.testCases.layout.opening
  ending : scanner.testCases.layout.ending = scanner.fileType
  identifier : Rule.Reads .identifier (configured configuration .identifierPattern)
    scanner.testCases.identifier
  setup : Rule.Reads .setup (configured configuration .setupPattern) scanner.testCases.setup
  estimate : Rule.Reads .estimate (configured configuration .estimatePattern)
    scanner.testCases.estimate
  markers : configured configuration .generatedMarkers = .list (scanner.markers.map .text)

/-- A scanner is made with a type and a number of workers, and else as a configuration says, unless
there is no worker. -/
def Makes (configuration : Toml.Table) (fileType : String) (workers : Int) :
    Except Invalid Scanner → Prop
  | .ok scanner => 1 ≤ workers ∧ scanner.workers = workers ∧ scanner.fileType = fileType ∧
      ConfiguredBy configuration scanner
  | .error (.scanner (.workers count)) => workers < 1 ∧ count = workers
  | .error _ => False

theorem Makes.exists_scanner {made : Except Invalid Scanner}
    (h : Makes configuration fileType workers made) (hworkers : 1 ≤ workers) :
    ∃ scanner, made = .ok scanner ∧ scanner.workers = workers ∧ scanner.fileType = fileType ∧
      ConfiguredBy configuration scanner := by
  rcases made with (error | error | count) | scanner
  · exact h.elim
  · exact h.elim
  · exact absurd h.1 (Int.not_lt.mpr hworkers)
  · exact ⟨scanner, rfl, h.2⟩

theorem Proper.makes_scanner (h : Proper configuration)
    (hvalue : ∀ setting, settings.value setting = configured configuration setting)
    (htype : configured configuration .fileType = .text fileType)
    (hworkers : (configured configuration .workers).Counts workers)
    (askedType : Option String) (askedWorkers : Option Int) :
    Makes configuration (optionOver "" askedType fileType) (optionOver 0 askedWorkers workers)
      (settings.scanner askedType askedWorkers) := by
  obtain ⟨pattern, hpattern⟩ := h.admits_configured .declarationPattern
  obtain ⟨ignored, hignored⟩ := h.admits_configured .ignoredRoutines
  obtain ⟨directory, hdirectory⟩ := h.admits_configured .directory
  obtain ⟨opening, hopening⟩ := h.admits_configured .opening
  obtain ⟨identifier, hidentifier⟩ := h.admits_configured .identifierPattern
  obtain ⟨setup, hsetup⟩ := h.admits_configured .setupPattern
  obtain ⟨estimate, hestimate⟩ := h.admits_configured .estimatePattern
  obtain ⟨markers, hmarkers⟩ := h.admits_configured .generatedMarkers
  have hscanner : settings.scanner askedType askedWorkers =
      (Scanner.make? (optionOver "" askedType fileType) (optionOver 0 askedWorkers workers)
        ⟨pattern, ignored⟩
        ⟨⟨directory, opening, optionOver "" askedType fileType⟩, identifier, setup, estimate⟩
        markers).mapError .scanner := by
    rw [← hvalue] at htype hworkers hpattern hignored hdirectory hopening hidentifier hsetup
    rw [← hvalue] at hestimate hmarkers
    rw [scanner, chosenFileType_eq htype, declarations_eq hpattern hignored,
      chosenWorkers_eq hworkers, texts_eq hmarkers]
    simp only [Except.mapError, bind, Except.bind,
      testCases_eq hdirectory hopening hidentifier hsetup hestimate]
  -- All that can still be refused is the number of workers.
  rw [hscanner, Scanner.make?]
  split
  · rename_i hfew
    exact ⟨hfew, rfl⟩
  · rename_i hmany
    have hcount : (((optionOver 0 askedWorkers workers).toNat : Nat) : Int) =
      optionOver 0 askedWorkers workers := by omega
    exact ⟨by omega, hcount, rfl, hpattern, hignored, hdirectory, hopening, rfl, hidentifier,
      hsetup, hestimate, hmarkers⟩

end Settings

end TestReach
