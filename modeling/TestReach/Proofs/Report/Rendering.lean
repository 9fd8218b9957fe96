import Mathlib.Data.List.Nodup
import TestReach.Proofs.Report.Groups
import TestReach.Report.Document

namespace TestReach.Report

variable {options : Options} {approval : Option Approval} {cases group : TestCase.Cases}
  {seconds : TestCase → Nat} {text : TestCase → String}

/-- Test cases that can be reported: a map by identifier, with the duration and the protocol of each. -/
structure Reportable (options : Options) (seconds : TestCase → Nat) (text : TestCase → String)
    (cases : TestCase.Cases) : Prop where
  nodup : (Catalog.keys cases).Nodup
  identifier : ∀ entry ∈ cases, entry.2.info.identifier = entry.1
  seconds : ∀ entry ∈ cases, Estimate.seconds entry.2.info.estimate = .ok (seconds entry.2)
  text : ∀ entry ∈ cases, protocol options entry.2 = .ok (text entry.2)

theorem Reportable.byIdentifier (h : Reportable options seconds text cases) : ByIdentifier cases :=
  ⟨h.nodup, h.identifier⟩

theorem Reportable.sublist (h : Reportable options seconds text cases) (hgroup : group.Sublist cases) :
    Reportable options seconds text group where
  nodup := (hgroup.map _).nodup h.nodup
  identifier entry hentry := h.identifier entry (hgroup.subset hentry)
  seconds entry hentry := h.seconds entry (hgroup.subset hentry)
  text entry hentry := h.text entry (hgroup.subset hentry)

theorem Reportable.perm (h : Reportable options seconds text cases) (hgroup : group.Perm cases) :
    Reportable options seconds text group where
  nodup := (hgroup.map _).nodup_iff.mpr h.nodup
  identifier entry hentry := h.identifier entry (hgroup.subset hentry)
  seconds entry hentry := h.seconds entry (hgroup.subset hentry)
  text entry hentry := h.text entry (hgroup.subset hentry)

theorem Reportable.nodup_identifiers (h : Reportable options seconds text cases) :
    ((Catalog.values cases).map (·.info.identifier)).Nodup := by
  have hkeys : (Catalog.values cases).map (·.info.identifier) = Catalog.keys cases := by
    rw [Catalog.values, List.map_map]
    exact List.map_congr_left h.identifier
  rw [hkeys]
  exact h.nodup

theorem mapM_of_ok {α β ε : Type} {f : α → Except ε β} {g : α → β} {items : List α}
    (h : ∀ item ∈ items, f item = .ok (g item)) : items.mapM f = .ok (items.map g) := by
  induction items with
  | nil => rfl
  | cons item rest ih =>
    obtain ⟨hitem, hrest⟩ := List.forall_mem_cons.mp h
    rw [List.mapM_cons, hitem, ih hrest]
    rfl

/-- Test cases by duration, those of the same duration by identifier. -/
def sorted (seconds : TestCase → Nat) (cases : TestCase.Cases) : List TestCase :=
  (((Catalog.values cases).map fun case => (seconds case, case)).mergeSort precedes).map (·.2)

theorem sorted_perm (seconds : TestCase → Nat) (cases : TestCase.Cases) :
    (sorted seconds cases).Perm (Catalog.values cases) := by
  have hperm := (List.mergeSort_perm ((Catalog.values cases).map fun case => (seconds case, case))
    precedes).map (·.2)
  have hcases : ((Catalog.values cases).map fun case => (seconds case, case)).map (·.2) =
      Catalog.values cases := by
    rw [List.map_map]
    exact List.map_id _
  rwa [hcases] at hperm

theorem precedes_iff {a b : Nat × TestCase} : precedes a b = true ↔
    a.1 < b.1 ∨ a.1 = b.1 ∧ a.2.info.identifier ≤ b.2.info.identifier := by
  simp [precedes]

theorem pairwise_sorted (h : ((Catalog.values cases).map (·.info.identifier)).Nodup) :
    (sorted seconds cases).Pairwise fun a b => seconds a < seconds b ∨
      seconds a = seconds b ∧ Text.CodePointsBefore a.info.identifier b.info.identifier := by
  have hle : (((Catalog.values cases).map fun case => (seconds case, case)).mergeSort
      precedes).Pairwise fun a b => precedes a b = true := by
    apply List.pairwise_mergeSort
    · intro a b c hab hbc
      rw [precedes_iff] at hab hbc ⊢
      rcases hab with hab | ⟨hab, hle⟩
      · exact Or.inl (by omega)
      rcases hbc with hbc | ⟨hbc, hle'⟩
      · exact Or.inl (by omega)
      · exact Or.inr ⟨hab.trans hbc, String.le_trans hle hle'⟩
    · intro a b
      rw [Bool.or_eq_true, precedes_iff, precedes_iff]
      rcases Nat.lt_trichotomy a.1 b.1 with hlt | heq | hgt
      · exact Or.inl (Or.inl hlt)
      · exact (String.le_total a.2.info.identifier b.2.info.identifier).imp
          (fun hle => Or.inr ⟨heq, hle⟩) fun hle => Or.inr ⟨heq.symm, hle⟩
      · exact Or.inr (Or.inl hgt)
  -- The order in which they are sorted is not strict, but no identifier comes twice.
  have hne : (sorted seconds cases).Pairwise fun a b => a.info.identifier ≠ b.info.identifier :=
    List.pairwise_map.mp (((sorted_perm seconds cases).map _).nodup_iff.mpr h)
  rw [sorted, List.pairwise_map] at hne ⊢
  apply (hle.and hne).imp_of_mem
  rintro ⟨m, a⟩ ⟨n, b⟩ ha hb ⟨hprecedes, hne⟩
  obtain ⟨-, rfl⟩ : a ∈ Catalog.values cases ∧ seconds a = m := by simpa using ha
  obtain ⟨-, rfl⟩ : b ∈ Catalog.values cases ∧ seconds b = n := by simpa using hb
  rcases precedes_iff.mp hprecedes with hlt | ⟨heq, hle⟩
  · exact Or.inl hlt
  · exact Or.inr ⟨heq, Text.codePointsBefore_of_le hle hne⟩

theorem byDuration_of_seconds
    (h : ∀ entry ∈ cases, Estimate.seconds entry.2.info.estimate = .ok (seconds entry.2)) :
    byDuration cases = .ok (sorted seconds cases) := by
  have htimed : ∀ case ∈ Catalog.values cases,
      ((Estimate.seconds case.info.estimate).map fun seconds => (seconds, case)).mapError
        Fault.estimate = .ok (seconds case, case) := by
    intro case hcase
    obtain ⟨entry, hentry, rfl⟩ := List.mem_map.mp hcase
    rw [h entry hentry]
    rfl
  rw [byDuration, mapM_of_ok htimed]
  rfl

def setupHeader (setup : String) : String :=
  "\n" ++ Xml.comment setup ++ "\n"

/-- The header of a section; one without a title has none. -/
def sectionHeader (title : Option String) : String :=
  (title.map fun title => "<!-- " ++ title ++ " -->\n").getD ""

def written (text : TestCase → String) (cases : List TestCase) : String :=
  String.join (cases.map fun case => text case ++ "\n")

def sectionText (seconds : TestCase → Nat) (text : TestCase → String) (part : Section) : String :=
  sectionHeader part.title ++ written text (sorted seconds part.cases)

theorem render_section {part : Section} (h : Reportable options seconds text part.cases) :
    part.render options = .ok (sectionText seconds text part) := by
  have htext : ∀ case ∈ sorted seconds part.cases, protocol options case = .ok (text case) := by
    intro case hcase
    obtain ⟨entry, hentry, rfl⟩ := List.mem_map.mp ((sorted_perm _ _).subset hcase)
    exact h.text entry hentry
  have hrender : part.render options = .ok (sectionHeader part.title ++
      String.join (((sorted seconds part.cases).map text).map (· ++ "\n"))) := by
    rw [Section.render, byDuration_of_seconds h.seconds]
    change (do
      let protocols ← (sorted seconds part.cases).mapM (protocol options)
      return _) = _
    rw [mapM_of_ok htext]
    rfl
  rw [hrender, List.map_map]
  rfl

def groupText (approval : Option Approval) (seconds : TestCase → Nat) (text : TestCase → String)
    (group : String × TestCase.Cases) : String :=
  setupHeader group.1 ++
    String.join ((sections approval group.2).map (sectionText seconds text))

theorem render_group {group : String × TestCase.Cases} (hgroup : group.2 ≠ [])
    (h : Reportable options seconds text group.2) :
    renderGroup options approval group = .ok (groupText approval seconds text group) := by
  have hparts : ∀ part ∈ sections approval group.2,
      part.render options = .ok (sectionText seconds text part) := by
    intro part hpart
    exact render_section (h.sublist ((sections_split approval hgroup h.identifier).sublist hpart))
  rw [renderGroup, mapM_of_ok hparts]
  rfl

theorem protocols_eq_join (h : Reportable options seconds text cases) :
    protocols options approval cases =
      .ok (String.join ((groups cases).map (groupText approval seconds text))) := by
  have hgroups : ∀ group ∈ groups cases,
      renderGroup options approval group = .ok (groupText approval seconds text group) := by
    rintro ⟨setup, group⟩ hmem
    obtain ⟨rfl, hgroup⟩ := (mem_groups h.nodup).mp hmem
    exact render_group hgroup (h.sublist List.filter_sublist)
  rw [protocols, mapM_of_ok hgroups]
  rfl

theorem valueOf_path (path : List Char) :
    UrlTemplate.Field.valueOf path "path".toList = .ok path := by
  have hindex : UrlTemplate.Field.index? "path".toList = .ok none := by decide +kernel
  have hname : "path".toList.takeWhile (!UrlTemplate.Field.endsName ·) = "path".toList := by decide
  simp only [UrlTemplate.Field.valueOf, hname, hindex, bind, Except.bind]
  simp [UrlTemplate.Field.select]

theorem expand_standardScriptUrl (path : String) :
    UrlTemplate.expand standardScriptUrl path = .ok path := by
  have hliteral : UrlTemplate.literalPart standardScriptUrl.toList =
      .ok ([], some "path\x7d".toList) := by decide
  have hread : UrlTemplate.Field.read "path\x7d".toList = .ok ({ name := "path".toList }, []) := by
    decide +kernel
  have hlength : standardScriptUrl.length = 6 := by decide
  rw [UrlTemplate.expand, hlength, UrlTemplate.nestingLimit]
  simp only [UrlTemplate.expandFrom, hliteral, hread, valueOf_path, bind, Except.bind]
  simp [UrlTemplate.Field.convert, UrlTemplate.Layout.apply, UrlTemplate.literalPart, Except.map, pure,
    Except.pure]

/-- With the standard address the protocol of every test case that lies in the directory of test
cases can be written. -/
theorem exists_protocol {case : TestCase} {script : String}
    (hurl : options.scriptUrl = standardScriptUrl)
    (hscript : scriptPath options.directory case.path = .ok script) :
    ∃ text, protocol options case = .ok text := by
  have haddress : scriptAddress options case.path = .ok script := by
    rw [scriptAddress, hscript, hurl]
    change (UrlTemplate.expand standardScriptUrl script).mapError Fault.url = .ok script
    rw [expand_standardScriptUrl]
    rfl
  rw [protocol, haddress]
  exact ⟨_, rfl⟩

end TestReach.Report
