import TestReach.Proofs.Report.Scripts
import TestReach.Proofs.WorkItem.Export

namespace TestReach.Report

variable {options : Options} {approval : Approval} {cases group : TestCase.Cases}
  {seconds : TestCase → Nat} {text : TestCase → String}

structure Part where
  setup : String
  approved : List TestCase
  others : List TestCase

/-- Test cases under a title, which stands only over some. -/
def titled (text : TestCase → String) (title : String) (cases : List TestCase) : String :=
  if cases = [] then "" else sectionHeader (some title) ++ written text cases

def Part.render (text : TestCase → String) (part : Part) : String :=
  setupHeader part.setup ++ titled text "approved" part.approved ++
    titled text "not approved" part.others

/-- The parts hold every test case once, under its setup and by its approval. -/
structure Parted (cases : TestCase.Cases) (approved : String → Prop) (parts : List Part) : Prop where
  ascending : parts.Pairwise fun a b => Text.CodePointsBefore a.setup b.setup
  perm : (parts.flatMap fun part => part.approved ++ part.others).Perm (Catalog.values cases)
  exists_part {entry : String × TestCase} :
    entry ∈ cases → ∃ part ∈ parts, part.setup = setupKey entry.2.info.setup
  approved_iff {entry : String × TestCase} {part : Part} : entry ∈ cases → part ∈ parts →
    (entry.2 ∈ part.approved ↔ part.setup = setupKey entry.2.info.setup ∧ approved entry.1)
  others_iff {entry : String × TestCase} {part : Part} : entry ∈ cases → part ∈ parts →
    (entry.2 ∈ part.others ↔ part.setup = setupKey entry.2.info.setup ∧ ¬ approved entry.1)

def partOf (approval : Approval) (seconds : TestCase → Nat) (group : String × TestCase.Cases) : Part where
  setup := group.1
  approved := sorted seconds (group.2.filter (approval.approves ·.2))
  others := sorted seconds (group.2.filter (!approval.approves ·.2))

theorem sorted_eq_nil_iff : sorted seconds group = [] ↔ group = [] := by
  rw [← List.length_eq_zero_iff, (sorted_perm seconds group).length_eq, Catalog.values, List.length_map,
    List.length_eq_zero_iff]

/-- A section that is left out because it is empty would have no text under its title. -/
theorem join_sections (text : TestCase → String) (parts : List Section) :
    String.join ((parts.filter (!·.cases.isEmpty)).map (sectionText seconds text)) =
      String.join (parts.map fun part =>
        if part.cases = [] then "" else sectionText seconds text part) := by
  induction parts with
  | nil => rfl
  | cons part parts ih =>
    rw [List.map_cons, String.join_cons, ← ih]
    by_cases hnil : part.cases = [] <;> simp [hnil]

theorem flatMap_sections (seconds : TestCase → Nat) (parts : List Section) :
    (parts.filter (!·.cases.isEmpty)).flatMap (fun part => sorted seconds part.cases) =
      parts.flatMap fun part => sorted seconds part.cases := by
  induction parts with
  | nil => rfl
  | cons part parts ih =>
    rw [List.flatMap_cons, ← ih]
    by_cases hnil : part.cases = []
    · simp [hnil, sorted_eq_nil_iff.mpr]
    · simp [hnil]

theorem titled_sorted (title : String) (group : TestCase.Cases) :
    titled text title (sorted seconds group) =
      if group = [] then "" else sectionText seconds text ⟨some title, group⟩ := by
  simp only [titled, sectionText, sorted_eq_nil_iff]

theorem groupText_eq {setup : String} (h : ∀ entry ∈ group, entry.2.info.identifier = entry.1) :
    groupText (some approval) seconds text (setup, group) =
      (partOf approval seconds (setup, group)).render text := by
  rw [groupText, sections_of_approval approval h, join_sections, Part.render, partOf, titled_sorted,
    titled_sorted]
  simp [String.append_assoc]

theorem flatMap_sections_eq {setup : String} (h : ∀ entry ∈ group, entry.2.info.identifier = entry.1) :
    (sections (some approval) group).flatMap (fun part => sorted seconds part.cases) =
      (partOf approval seconds (setup, group)).approved ++
        (partOf approval seconds (setup, group)).others := by
  rw [sections_of_approval approval h, flatMap_sections]
  simp [partOf]

theorem mem_sorted_iff {entry : String × TestCase}
    (h : ∀ entry ∈ cases, entry.2.info.identifier = entry.1) (hgroup : group ⊆ cases)
    (hentry : entry ∈ cases) : entry.2 ∈ sorted seconds group ↔ entry ∈ group := by
  rw [(sorted_perm seconds group).mem_iff, Catalog.values, List.mem_map]
  constructor
  · rintro ⟨other, hother, hsame⟩
    have hkey : other.1 = entry.1 := by rw [← h other (hgroup hother), hsame, h entry hentry]
    rwa [← Prod.ext hkey hsame]
  · exact fun hmem => ⟨entry, hmem, rfl⟩

section Reported

variable (h : Reportable options seconds text cases)

include h

theorem Reportable.mem_sorted_filter {setup : String} (hgroup : (setup, group) ∈ groups cases)
    {entry : String × TestCase} (hentry : entry ∈ cases) (chosen : TestCase → Bool) :
    entry.2 ∈ sorted seconds (group.filter (chosen ·.2)) ↔
      setup = setupKey entry.2.info.setup ∧ chosen entry.2 = true := by
  obtain ⟨rfl, -⟩ := (mem_groups h.nodup).mp hgroup
  have hsubset : (cases.filter (isUnder setup)).filter (chosen ·.2) ⊆ cases :=
    fun other hother => List.mem_of_mem_filter (List.mem_of_mem_filter hother)
  rw [mem_sorted_iff h.identifier hsubset hentry, List.mem_filter, List.mem_filter, isUnder, beq_iff_eq]
  simp only [hentry, true_and, eq_comm]

theorem Reportable.parted (approval : Approval) :
    Parted cases (fun k => approval.plan.approves approval.statuses k = true)
      ((groups cases).map (partOf approval seconds)) := by
  have happroves {entry : String × TestCase} (hentry : entry ∈ cases) :
      approval.approves entry.2 = approval.plan.approves approval.statuses entry.1 := by
    rw [Approval.approves, h.identifier entry hentry]
  constructor
  · rw [List.pairwise_map]
    exact pairwise_groups h.nodup
  -- The parts one after the other are the order of the report, in which nothing is lost.
  · have hordered : ((groups cases).map (partOf approval seconds)).flatMap
        (fun part => part.approved ++ part.others) = ordered (some approval) seconds cases := by
      rw [List.flatMap_map, ordered]
      apply List.flatMap_congr
      rintro ⟨setup, group⟩ hgroup
      exact (flatMap_sections_eq (h.byIdentifier.identifier_of_group hgroup)).symm
    rw [hordered]
    exact h.ordered_perm
  · intro entry hentry
    obtain ⟨group, hgroup, -⟩ := h.byIdentifier.exists_group hentry
    exact ⟨_, List.mem_map_of_mem hgroup, rfl⟩
  · intro entry part hentry hpart
    obtain ⟨⟨setup, group⟩, hgroup, rfl⟩ := List.mem_map.mp hpart
    rw [← happroves hentry]
    exact h.mem_sorted_filter hgroup hentry approval.approves
  · intro entry part hentry hpart
    obtain ⟨⟨setup, group⟩, hgroup, rfl⟩ := List.mem_map.mp hpart
    have hothers := h.mem_sorted_filter hgroup hentry (!approval.approves ·)
    rw [Bool.not_eq_true'] at hothers
    rw [← happroves hentry, Bool.not_eq_true]
    exact hothers

theorem Reportable.protocols_eq_parts (approval : Approval) :
    protocols options (some approval) cases = .ok (String.join
      (((groups cases).map (partOf approval seconds)).map (Part.render text))) := by
  have hgroups : (groups cases).map (groupText (some approval) seconds text) =
      (groups cases).map (Part.render text ∘ partOf approval seconds) := by
    apply List.map_congr_left
    rintro ⟨setup, group⟩ hgroup
    exact groupText_eq (h.byIdentifier.identifier_of_group hgroup)
  rw [protocols_eq_join h, List.map_map, hgroups]

end Reported

theorem exists_reportable (hcases : ByIdentifier cases) (h : ∀ entry ∈ cases,
    (∃ seconds, Estimate.seconds entry.2.info.estimate = .ok seconds) ∧
      ∃ text, protocol options entry.2 = .ok text) :
    ∃ seconds text, Reportable options seconds text cases := by
  refine ⟨fun case => (Estimate.seconds case.info.estimate).toOption.getD 0,
    fun case => (protocol options case).toOption.getD "", hcases.nodup, hcases.identifier, ?_, ?_⟩
  · intro entry hentry
    obtain ⟨⟨seconds, hseconds⟩, -⟩ := h entry hentry
    rw [hseconds]
    rfl
  · intro entry hentry
    obtain ⟨-, text, htext⟩ := h entry hentry
    rw [htext]
    rfl

/-- Protocols can be written just when the estimate and the protocol of every test case can. -/
theorem exists_protocols_iff (hcases : ByIdentifier cases) (approval : Option Approval) :
    (∃ text, protocols options approval cases = .ok text) ↔ ∀ entry ∈ cases,
      (∃ seconds, Estimate.seconds entry.2.info.estimate = .ok seconds) ∧
        ∃ text, protocol options entry.2 = .ok text := by
  constructor
  · rintro ⟨text, htext⟩ entry hentry
    exact ⟨exists_seconds_of_protocols hcases htext entry hentry,
      exists_protocol_of_protocols hcases htext entry hentry⟩
  · intro h
    obtain ⟨seconds, text, hreportable⟩ := exists_reportable hcases h
    exact ⟨_, protocols_eq_join hreportable⟩

theorem render_eq_ok_iff {request : Request} {output : String} : render request cases = .ok output ↔
    ∃ text, protocols request.options request.approval cases = .ok text ∧
      output = fill request.template request.search text := by
  rw [render, bind_eq_ok]
  exact exists_congr fun text => and_congr_right fun _ => pure_eq_ok.trans eq_comm

/-- A report with the work items of an exported document stands in parts, one for each setup: a test case
is approved in it just when its identifier is not empty and the last element in the document that gives
this identifier has one of the statuses. -/
theorem approval_follows_export (hcases : ByIdentifier cases) {document : String} {root : Xml.Element}
    (hdocument : Xml.document? document = some root) (template search : String)
    (statuses : List String) (options : Options) :
    ∃ plan records, WorkItem.Export.parse document = .ok (plan, records) ∧
      ((∃ output, render ⟨template, search, some ⟨plan, statuses⟩, options⟩ cases = .ok output) ↔
        ∀ entry ∈ cases, (∃ seconds, Estimate.seconds entry.2.info.estimate = .ok seconds) ∧
          ∃ text, protocol options entry.2 = .ok text) ∧
      (∀ output, render ⟨template, search, some ⟨plan, statuses⟩, options⟩ cases = .ok output →
        ∃ text parts, (∀ entry ∈ cases, protocol options entry.2 = .ok (text entry.2)) ∧
          output = fill template search (String.join (parts.map (Part.render text))) ∧
          Parted cases (fun k => k ≠ "" ∧ WorkItem.Export.ApprovedBy root statuses k) parts) ∧
      ∀ root' k, WorkItem.Export.statusesFor root' k = WorkItem.Export.statusesFor root k →
        (WorkItem.Export.plan root').approves statuses k = plan.approves statuses k := by
  refine ⟨WorkItem.Export.plan root, WorkItem.Export.log root, ?_, ?_, ?_, ?_⟩
  · rw [WorkItem.Export.parse, hdocument]
  · rw [← exists_protocols_iff hcases (some ⟨WorkItem.Export.plan root, statuses⟩)]
    simp only [render_eq_ok_iff]
    exact ⟨fun ⟨_, text, htext, _⟩ => ⟨text, htext⟩, fun ⟨text, htext⟩ => ⟨_, text, htext, rfl⟩⟩
  · intro output houtput
    obtain ⟨protocols, hprotocols, rfl⟩ := render_eq_ok_iff.mp houtput
    obtain ⟨seconds, text, hreportable⟩ :=
      exists_reportable hcases ((exists_protocols_iff hcases _).mp ⟨protocols, hprotocols⟩)
    have hparted := hreportable.parted ⟨WorkItem.Export.plan root, statuses⟩
    rw [hreportable.protocols_eq_parts, Except.ok.injEq] at hprotocols
    simp only [WorkItem.Export.approves_plan_iff] at hparted
    exact ⟨text, _, hreportable.text, by rw [hprotocols], hparted⟩
  · intro root' k hsame
    rw [Bool.eq_iff_iff, WorkItem.Export.approves_plan_iff, WorkItem.Export.approves_plan_iff,
      WorkItem.Export.approvedBy_iff_getLast?, WorkItem.Export.approvedBy_iff_getLast?, hsame]

end TestReach.Report

namespace TestReach

open WorkItem.Export

namespace Sample

/-- A draft for a test case, with an approved work item for it inside. -/
def exportText : String :=
  "<a><workItem><fields><id> P-1</id></fields><workItem><fields><id>P-1</id>" ++
    "<status name=\"Approved\"/></fields></workItem></workItem></a>"

def blankText : String :=
  "<workItem><fields><id> </id><status name=\"approved\"/></fields></workItem>"

/-- A map of test cases with one that has no identifier. -/
def anonymous : TestCase.Cases :=
  [("", testCase "test_a.py" "" "bench" "30")]

end Sample

namespace Report

theorem sample_report_follows_export : ∃ root plan records output text parts,
    Xml.document? Sample.exportText = some root ∧ parse Sample.exportText = .ok (plan, records) ∧
      render ⟨resultsPlace, "x", some ⟨plan, standardStatuses⟩, {}⟩ Sample.reported = .ok output ∧
      output = fill resultsPlace "x" (String.join (parts.map (Part.render text))) ∧
      Parted Sample.reported (fun k => k ≠ "" ∧ ApprovedBy root standardStatuses k) parts ∧
      ApprovedBy root standardStatuses "P-1" ∧ ¬ ApprovedBy root standardStatuses "P-2" := by
  have happroves : ((Xml.document? Sample.exportText).map fun root =>
      ["P-1", "P-2"].map ((plan root).approves standardStatuses)) = some [true, false] := by
    decide +kernel
  obtain ⟨root, hdocument, happroves⟩ := Option.map_eq_some_iff.mp happroves
  rw [List.map_cons, List.map_singleton, List.cons.injEq, List.cons.injEq] at happroves
  obtain ⟨hfirst, hsecond, -⟩ := happroves
  have hreported := Sample.reportable_reported
  obtain ⟨plan, records, hparse, hrendered, hparts, -⟩ :=
    approval_follows_export ⟨hreported.nodup, hreported.identifier⟩ hdocument resultsPlace "x"
      standardStatuses {}
  obtain ⟨output, houtput⟩ := hrendered.mpr fun entry hentry =>
    ⟨⟨_, hreported.seconds entry hentry⟩, _, hreported.text entry hentry⟩
  obtain ⟨text, parts, -, hfill, hparted⟩ := hparts output houtput
  refine ⟨root, plan, records, output, text, parts, hdocument, hparse, houtput, hfill, hparted, ?_, ?_⟩
  · exact ((approves_plan_iff root _ _).mp hfirst).2
  · intro happroved
    have happroves := (approves_plan_iff root _ _).mpr ⟨by decide, happroved⟩
    rw [hsecond] at happroves
    cases happroves

/-- An element with an approved status gives the empty identifier, and still a test case with that
identifier is not approved. -/
theorem blank_identifier_not_approved : ∃ root, Xml.document? Sample.blankText = some root ∧
    ApprovedBy root standardStatuses "" ∧
      protocols {} (some ⟨plan root, standardStatuses⟩) Sample.anonymous =
        .ok ("\n<!-- bench -->\n<!-- not approved -->\n" ++
          Sample.protocolOf (Sample.testCase "test_a.py" "" "bench" "30") ++ "\n") := by
  have hitems : ((Xml.document? Sample.blankText).map fun root =>
      ((statusesFor root "").getLast?, (plan root).approves standardStatuses "")) =
        some (some "approved", false) := by decide +kernel
  obtain ⟨root, hdocument, hitems⟩ := Option.map_eq_some_iff.mp hitems
  obtain ⟨hlast, hnot⟩ := Prod.mk.inj hitems
  refine ⟨root, hdocument, approvedBy_iff_getLast?.mpr ⟨_, hlast, "approved", by decide, rfl⟩, ?_⟩
  have hreportable : Reportable {} Sample.secondsOf Sample.protocolOf Sample.anonymous := by
    refine ⟨by decide, by decide, by decide +kernel, ?_⟩
    intro entry hentry
    obtain rfl := List.mem_singleton.mp hentry
    exact Sample.protocol_of_script (by decide +kernel)
  have hgroups : groups Sample.anonymous = [("bench", Sample.anonymous)] := by
    have hfold : Sample.anonymous.foldl intoGroup ([] : Catalog TestCase.Cases) =
        [("bench", Sample.anonymous)] := by decide +kernel
    rw [groups, hfold, List.mergeSort_singleton]
  have hcase : (⟨plan root, standardStatuses⟩ : Approval).approves
      (Sample.testCase "test_a.py" "" "bench" "30") = false := hnot
  have hpart : partOf ⟨plan root, standardStatuses⟩ Sample.secondsOf ("bench", Sample.anonymous) =
      ⟨"bench", [], [Sample.testCase "test_a.py" "" "bench" "30"]⟩ := by
    simp [partOf, Sample.anonymous, hcase, sorted, Catalog.values]
  have hheaders : setupHeader "bench" ++ sectionHeader (some "not approved") =
      "\n<!-- bench -->\n<!-- not approved -->\n" := by decide +kernel
  rw [hreportable.protocols_eq_parts, hgroups, ← hheaders, List.map_singleton, hpart,
    List.map_singleton, Part.render]
  simp [titled, written, String.append_assoc]

end Report
end TestReach
