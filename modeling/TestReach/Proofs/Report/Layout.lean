import TestReach.Proofs.Report.Rendering

namespace TestReach

namespace Report

variable {options : Options} {approval : Option Approval} {cases group : TestCase.Cases}
  {seconds : TestCase → Nat} {text : TestCase → String}

/-- The order of a report: by setup, approved test cases first, by duration and by identifier. -/
def Before (approval : Option Approval) (seconds : TestCase → Nat) (a b : TestCase) : Prop :=
  Text.CodePointsBefore (setupKey a.info.setup) (setupKey b.info.setup) ∨
    setupKey a.info.setup = setupKey b.info.setup ∧
      (rank approval a < rank approval b ∨ rank approval a = rank approval b ∧
        (seconds a < seconds b ∨ seconds a = seconds b ∧
          Text.CodePointsBefore a.info.identifier b.info.identifier))

instance (a b : TestCase) : Decidable (Before approval seconds a b) :=
  inferInstanceAs (Decidable (_ ∨ _))

theorem Before.asymm {a b : TestCase} (h : Before approval seconds a b) :
    ¬ Before approval seconds b a := by
  intro hback
  rcases h with h | ⟨hsetup, h⟩
  · rcases hback with hback | ⟨hsetup, -⟩
    · exact h.asymm hback
    · rw [hsetup] at h
      exact h.asymm h
  rcases hback with hback | ⟨-, hback⟩
  · rw [hsetup] at hback
    exact hback.asymm hback
  -- In one group the ranks decide, then the durations, then the identifiers.
  rcases h with h | ⟨hrank, h⟩
  · rcases hback with hback | ⟨hrank, -⟩ <;> omega
  rcases hback with hback | ⟨-, hback⟩
  · omega
  rcases h with h | ⟨hseconds, h⟩
  · rcases hback with hback | ⟨hseconds, -⟩ <;> omega
  rcases hback with hback | ⟨-, hback⟩
  · omega
  · exact h.asymm hback

/-- Where a test case stands in a report: the setup of its group and the title of its section. -/
def place (approval : Option Approval) (case : TestCase) : String × Option String :=
  (setupKey case.info.setup, title approval case)

/-- The headers in front of a test case: that of its group unless the test case before it is in the
same group, and that of its section unless it is in the same section. -/
def headers (before : Option (String × Option String)) (place : String × Option String) : String :=
  (if before.map (·.1) = some place.1 then "" else setupHeader place.1) ++
    if before = some place then "" else sectionHeader place.2

/-- Test cases in the given order, each with the headers that it needs after the one before it. -/
def layout (approval : Option Approval) (text : TestCase → String) :
    (before : Option (String × Option String)) → List TestCase → String
  | _, [] => ""
  | before, case :: rest =>
    headers before (place approval case) ++ (text case ++ "\n") ++
      layout approval text (some (place approval case)) rest

def ordered (approval : Option Approval) (seconds : TestCase → Nat) (cases : TestCase.Cases) :
    List TestCase :=
  (groups cases).flatMap fun group =>
    (sections approval group.2).flatMap fun part => sorted seconds part.cases

theorem layout_cons (before : Option (String × Option String)) (case : TestCase)
    (rest : List TestCase) : layout approval text before (case :: rest) =
      headers before (place approval case) ++ (text case ++ "\n") ++
        layout approval text (some (place approval case)) rest := rfl

@[simp] theorem headers_same (place : String × Option String) : headers (some place) place = "" := by
  simp [headers]

variable {here : String × Option String} {before : Option (String × Option String)}
  {block : List TestCase}

theorem layout_within (h : ∀ case ∈ block, place approval case = here) (rest : List TestCase) :
    layout approval text (some here) (block ++ rest) =
      written text block ++ layout approval text (some here) rest := by
  induction block with
  | nil => simp [written]
  | cons case block ih =>
    obtain ⟨hcase, hblock⟩ := List.forall_mem_cons.mp h
    rw [List.cons_append, layout_cons, hcase, headers_same, ih hblock, written, written, List.map_cons,
      String.join_cons]
    simp only [String.append_assoc, String.empty_append]

theorem layout_block (hblock : block ≠ []) (h : ∀ case ∈ block, place approval case = here)
    (rest : List TestCase) :
    layout approval text before (block ++ rest) =
      headers before here ++ written text block ++ layout approval text (some here) rest := by
  cases block with
  | nil => exact absurd rfl hblock
  | cons case block =>
    obtain ⟨hcase, hothers⟩ := List.forall_mem_cons.mp h
    rw [List.cons_append, layout_cons, hcase, layout_within hothers, written, written, List.map_cons,
      String.join_cons]
    simp only [String.append_assoc]

/-- A section stands under a setup: it has test cases, and all have their place in it. -/
structure Stands (approval : Option Approval) (seconds : TestCase → Nat) (setup : String)
    (part : Section) : Prop where
  ne_nil : sorted seconds part.cases ≠ []
  place_eq : ∀ case ∈ sorted seconds part.cases, place approval case = (setup, part.title)

theorem layout_sections (text : TestCase → String) {setup : String} {title : Option String}
    {parts : List Section} (hparts : ∀ part ∈ parts, Stands approval seconds setup part)
    (htitle : ∀ part ∈ parts, part.title ≠ title)
    (hpairwise : parts.Pairwise fun a b => a.title ≠ b.title) :
    ∃ last, ∀ rest, layout approval text (some (setup, title))
        ((parts.flatMap fun part => sorted seconds part.cases) ++ rest) =
      String.join (parts.map (sectionText seconds text)) ++
        layout approval text (some (setup, last)) rest := by
  induction parts generalizing title with
  | nil => exact ⟨title, fun rest => by simp⟩
  | cons part parts ih =>
    obtain ⟨hpart, hothers⟩ := List.forall_mem_cons.mp hparts
    obtain ⟨hnext, hpairwise⟩ := List.pairwise_cons.mp hpairwise
    obtain ⟨last, hlast⟩ := ih hothers (fun other hother => (hnext other hother).symm) hpairwise
    refine ⟨last, fun rest => ?_⟩
    have hheaders : headers (some (setup, title)) (setup, part.title) = sectionHeader part.title := by
      have hnew : title ≠ part.title := (htitle part List.mem_cons_self).symm
      simp [headers, hnew]
    rw [List.flatMap_cons, List.append_assoc, layout_block hpart.ne_nil hpart.place_eq, hlast,
      hheaders, List.map_cons, String.join_cons, sectionText]
    simp only [String.append_assoc]

/-- The sections of a setup that the test case before them does not have: the header of the group
comes first. -/
theorem layout_group (text : TestCase → String) {setup : String} {parts : List Section}
    (hne : parts ≠ []) (hparts : ∀ part ∈ parts, Stands approval seconds setup part)
    (hpairwise : parts.Pairwise fun a b => a.title ≠ b.title)
    (hbefore : before.map (·.1) ≠ some setup) :
    ∃ last, ∀ rest, layout approval text before
        ((parts.flatMap fun part => sorted seconds part.cases) ++ rest) =
      setupHeader setup ++ String.join (parts.map (sectionText seconds text)) ++
        layout approval text (some (setup, last)) rest := by
  cases parts with
  | nil => exact absurd rfl hne
  | cons part parts =>
    obtain ⟨hpart, hothers⟩ := List.forall_mem_cons.mp hparts
    obtain ⟨hnext, hpairwise⟩ := List.pairwise_cons.mp hpairwise
    obtain ⟨last, hlast⟩ := layout_sections text hothers
      (fun other hother => (hnext other hother).symm) hpairwise
    refine ⟨last, fun rest => ?_⟩
    have hheaders : headers before (setup, part.title) =
        setupHeader setup ++ sectionHeader part.title := by
      have hnew : before ≠ some (setup, part.title) := by
        rintro rfl
        exact hbefore rfl
      rw [headers, if_neg hbefore, if_neg hnew]
    rw [List.flatMap_cons, List.append_assoc, layout_block hpart.ne_nil hpart.place_eq, hlast,
      hheaders, List.map_cons, String.join_cons, sectionText]
    simp only [String.append_assoc]

theorem layout_groups (text : TestCase → String) {groups : List (String × TestCase.Cases)}
    (hgroups : ∀ group ∈ groups, sections approval group.2 ≠ [] ∧
      ((sections approval group.2).Pairwise fun a b => a.title ≠ b.title) ∧
      ∀ part ∈ sections approval group.2, Stands approval seconds group.1 part)
    (hsetups : groups.Pairwise fun a b => a.1 ≠ b.1)
    (hbefore : ∀ group ∈ groups, before.map (·.1) ≠ some group.1) :
    layout approval text before (groups.flatMap fun group =>
        (sections approval group.2).flatMap fun part => sorted seconds part.cases) =
      String.join (groups.map (groupText approval seconds text)) := by
  induction groups generalizing before with
  | nil => simp [layout]
  | cons group groups ih =>
    obtain ⟨⟨hne, htitles, hparts⟩, hothers⟩ := List.forall_mem_cons.mp hgroups
    obtain ⟨hnext, hsetups⟩ := List.pairwise_cons.mp hsetups
    obtain ⟨last, hlast⟩ := layout_group text hne hparts htitles (hbefore group List.mem_cons_self)
    -- The group ends in some section of its own setup, which no group after it has.
    rw [List.flatMap_cons, hlast, ih hothers hsetups, List.map_cons, String.join_cons, groupText]
    intro other hother
    simpa using hnext other hother

theorem rank_eq_of_title_eq {a b : TestCase} (h : title approval a = title approval b) :
    rank approval a = rank approval b := by
  cases approval with
  | none => rfl
  | some approval =>
    cases ha : approval.approves a <;> cases hb : approval.approves b <;> simp_all [title, rank]

section Reported

variable (h : Reportable options seconds text cases) {setup : String} {part : Section}
  {case : TestCase}

include h

theorem Reportable.split (approval : Option Approval) (hgroup : (setup, group) ∈ groups cases) :
    Split approval group (sections approval group) :=
  h.byIdentifier.split approval hgroup

theorem Reportable.of_section (hgroup : (setup, group) ∈ groups cases)
    (hpart : part ∈ sections approval group) : Reportable options seconds text part.cases := by
  have hsublist := (h.split approval hgroup).sublist hpart
  obtain ⟨rfl, -⟩ := (mem_groups h.nodup).mp hgroup
  exact h.sublist (hsublist.trans List.filter_sublist)

theorem Reportable.stands (hgroup : (setup, group) ∈ groups cases)
    (hpart : part ∈ sections approval group) : Stands approval seconds setup part := by
  obtain ⟨hne, htitle⟩ := (h.split approval hgroup).title hpart
  have hsublist := (h.split approval hgroup).sublist hpart
  obtain ⟨rfl, -⟩ := (mem_groups h.nodup).mp hgroup
  constructor
  · intro hnil
    have hperm := sorted_perm seconds part.cases
    rw [hnil] at hperm
    exact hne (by simpa [Catalog.values] using hperm.symm.eq_nil)
  · intro case hcase
    obtain ⟨entry, hentry, rfl⟩ := List.mem_map.mp ((sorted_perm _ _).subset hcase)
    have hunder := (List.mem_filter.mp (hsublist.subset hentry)).2
    have hsetup : setupKey entry.2.info.setup = setup := by simpa [isUnder] using hunder
    rw [place, htitle entry hentry, hsetup]

theorem Reportable.sections_ne_nil (hgroup : (setup, group) ∈ groups cases) :
    sections approval group ≠ [] := by
  intro hnil
  have hsplit := h.split approval hgroup
  obtain ⟨-, hne⟩ := (mem_groups h.nodup).mp hgroup
  obtain ⟨entry, hentry⟩ := List.exists_mem_of_ne_nil _ hne
  obtain ⟨part, hpart, -⟩ := hsplit.mem_iff.mpr hentry
  rw [hnil] at hpart
  cases hpart

theorem Reportable.protocols_eq : protocols options approval cases =
    .ok (layout approval text none (ordered approval seconds cases)) := by
  rw [protocols_eq_join h, ordered, layout_groups text]
  · rintro ⟨setup, group⟩ hgroup
    exact ⟨h.sections_ne_nil hgroup, (h.split approval hgroup).pairwise.imp And.left,
      fun part hpart => h.stands hgroup hpart⟩
  · apply (pairwise_groups h.nodup).imp
    rintro a b hab hsame
    rw [hsame] at hab
    exact hab.asymm hab
  · simp

theorem Reportable.mem_ordered :
    case ∈ ordered approval seconds cases ↔ case ∈ Catalog.values cases := by
  simp only [ordered, List.mem_flatMap]
  constructor
  · rintro ⟨⟨setup, group⟩, hgroup, part, hpart, hcase⟩
    obtain ⟨entry, hentry, rfl⟩ := List.mem_map.mp ((sorted_perm _ _).subset hcase)
    have hmem := ((h.split approval hgroup).sublist hpart).subset hentry
    obtain ⟨rfl, -⟩ := (mem_groups h.nodup).mp hgroup
    exact List.mem_map.mpr ⟨entry, List.mem_of_mem_filter hmem, rfl⟩
  · intro hcase
    obtain ⟨entry, hentry, rfl⟩ := List.mem_map.mp hcase
    obtain ⟨group, hgroup, hmem⟩ := h.byIdentifier.exists_group hentry
    obtain ⟨part, hpart, hin⟩ := (h.split approval hgroup).mem_iff.mpr hmem
    have hvalue : entry.2 ∈ Catalog.values part.cases := List.mem_map.mpr ⟨entry, hin, rfl⟩
    exact ⟨_, hgroup, part, hpart, (sorted_perm _ _).mem_iff.mpr hvalue⟩

theorem Reportable.pairwise_section (hgroup : (setup, group) ∈ groups cases)
    (hpart : part ∈ sections approval group) :
    (sorted seconds part.cases).Pairwise (Before approval seconds) := by
  apply (pairwise_sorted (h.of_section hgroup hpart).nodup_identifiers).imp_of_mem
  intro a b ha hb hab
  have hsame : place approval a = place approval b :=
    ((h.stands hgroup hpart).place_eq a ha).trans ((h.stands hgroup hpart).place_eq b hb).symm
  obtain ⟨hsetup, htitle⟩ := Prod.mk.inj hsame
  exact Or.inr ⟨hsetup, Or.inr ⟨rank_eq_of_title_eq htitle, hab⟩⟩

theorem Reportable.pairwise_group (hgroup : (setup, group) ∈ groups cases) :
    ((sections approval group).flatMap fun part => sorted seconds part.cases).Pairwise
      (Before approval seconds) := by
  apply List.pairwise_flatMap.mpr
  refine ⟨fun part hpart => h.pairwise_section hgroup hpart, ?_⟩
  apply (h.split approval hgroup).pairwise.imp_of_mem
  rintro first second hfirst hsecond ⟨-, hrank⟩ a ha b hb
  have hsetup : setupKey a.info.setup = setupKey b.info.setup :=
    (congrArg Prod.fst ((h.stands hgroup hfirst).place_eq a ha)).trans
      (congrArg Prod.fst ((h.stands hgroup hsecond).place_eq b hb)).symm
  obtain ⟨x, hx, rfl⟩ := List.mem_map.mp ((sorted_perm _ _).subset ha)
  obtain ⟨y, hy, rfl⟩ := List.mem_map.mp ((sorted_perm _ _).subset hb)
  exact Or.inr ⟨hsetup, Or.inl (hrank x hx y hy)⟩

theorem Reportable.pairwise_ordered :
    (ordered approval seconds cases).Pairwise (Before approval seconds) := by
  apply List.pairwise_flatMap.mpr
  refine ⟨fun group hgroup => h.pairwise_group hgroup, ?_⟩
  apply (pairwise_groups h.nodup).imp_of_mem
  intro first second hfirst hsecond hsetups a ha b hb
  obtain ⟨part, hpart, ha⟩ := List.mem_flatMap.mp ha
  obtain ⟨other, hother, hb⟩ := List.mem_flatMap.mp hb
  have hsetup : setupKey a.info.setup = first.1 :=
    congrArg Prod.fst ((h.stands hfirst hpart).place_eq a ha)
  have hsetup' : setupKey b.info.setup = second.1 :=
    congrArg Prod.fst ((h.stands hsecond hother).place_eq b hb)
  rw [← hsetup, ← hsetup'] at hsetups
  exact Or.inl hsetups

theorem Reportable.ordered_perm :
    (ordered approval seconds cases).Perm (Catalog.values cases) := by
  have hvalues : (Catalog.values cases).Nodup := .of_map _ h.nodup_identifiers
  have hordered : (ordered approval seconds cases).Nodup := by
    apply h.pairwise_ordered.imp
    rintro a b hab rfl
    exact hab.asymm hab
  -- Both lists hold the same test cases, and neither holds one twice.
  apply (List.perm_ext_iff_of_nodup hordered hvalues).mpr
  exact fun case => h.mem_ordered

theorem Reportable.ordered_eq_of_perm {cases' : TestCase.Cases} (hperm : cases'.Perm cases) :
    ordered approval seconds cases' = ordered approval seconds cases := by
  have h' := h.perm hperm
  have hsame : (ordered approval seconds cases').Perm (ordered approval seconds cases) :=
    h'.ordered_perm.trans ((hperm.map _).trans h.ordered_perm.symm)
  apply List.Perm.eq_of_pairwise _ h'.pairwise_ordered h.pairwise_ordered hsame
  exact fun a b _ _ hab hba => absurd hba hab.asymm

end Reported

/-- A report is laid out from one list, which holds every test case once and in strictly ascending
order: a test case has its protocol, the header of its group if it is the first of its setup, and that
of its section if it is the first of it. In whichever order a map comes, the report is the same. -/
theorem protocols_eq_layout (h : Reportable options seconds text cases)
    (approval : Option Approval) :
    (∃ ordered : List TestCase, ordered.Perm (Catalog.values cases) ∧
      ordered.Pairwise (Before approval seconds) ∧
      protocols options approval cases = .ok (layout approval text none ordered)) ∧
    ∀ cases' : TestCase.Cases, cases'.Perm cases →
      protocols options approval cases' = protocols options approval cases ∧
      ∀ template search, render ⟨template, search, approval, options⟩ cases' =
        render ⟨template, search, approval, options⟩ cases := by
  refine ⟨⟨ordered approval seconds cases, h.ordered_perm, h.pairwise_ordered, h.protocols_eq⟩, ?_⟩
  intro cases' hperm
  have hsame : protocols options approval cases' = protocols options approval cases := by
    rw [(h.perm hperm).protocols_eq, h.protocols_eq, h.ordered_eq_of_perm hperm]
  refine ⟨hsame, fun template search => ?_⟩
  rw [render, render, hsame]

end Report

namespace Sample

def testCase (script identifier setup estimate : String) : TestCase :=
  ⟨"t/test_cases/g/" ++ script, ⟨identifier, setup, estimate⟩⟩

/-- Four test cases of two setups, two of them with the same setup and duration. -/
def reported : TestCase.Cases :=
  [("P-2", testCase "test_b.py" "P-2" "Bench B" "0:30"),
    ("P-1", testCase "test_a.py" "P-1" "bench" "30"),
    ("P-3", testCase "test_c.py" "P-3" "Alpha" "1:00"),
    ("P-4", testCase "test_d.py" "P-4" "bench x" "45")]

def approval : Report.Approval where
  plan :=
    [("P-1", { identifier := "P-1", status := "draft" }),
      ("P-4", { identifier := "P-4", status := "Approved" })]

def secondsOf (case : TestCase) : Nat :=
  (Estimate.seconds case.info.estimate).toOption.getD 0

def protocolOf (case : TestCase) : String :=
  (Report.protocol {} case).toOption.getD ""

def inOrder : List TestCase :=
  [testCase "test_c.py" "P-3" "Alpha" "1:00", testCase "test_d.py" "P-4" "bench x" "45",
    testCase "test_a.py" "P-1" "bench" "30", testCase "test_b.py" "P-2" "Bench B" "0:30"]

theorem protocol_of_script {case : TestCase} (h : (Report.scriptPath TestCase.Layout.defaultDirectory
    case.path).toOption.isSome = true) : Report.protocol {} case = .ok (protocolOf case) := by
  cases hpath : Report.scriptPath TestCase.Layout.defaultDirectory case.path with
  | error fault =>
    rw [hpath] at h
    cases h
  | ok script =>
    have hurl : ({} : Report.Options).scriptUrl = Report.standardScriptUrl := rfl
    obtain ⟨text, htext⟩ := Report.exists_protocol hurl hpath
    rw [protocolOf, htext]
    rfl

theorem protocol_of_mem (entry : String × TestCase) (hentry : entry ∈ reported) :
    Report.protocol {} entry.2 = .ok (protocolOf entry.2) := by
  have hscripts : ∀ entry ∈ reported, (Report.scriptPath TestCase.Layout.defaultDirectory
      entry.2.path).toOption.isSome = true := by decide +kernel
  exact protocol_of_script (hscripts entry hentry)

theorem reportable_reported : Report.Reportable {} secondsOf protocolOf reported where
  nodup := by decide
  identifier := by decide
  seconds := by decide +kernel
  text := protocol_of_mem

theorem inOrder_perm : inOrder.Perm (Catalog.values reported) := by
  decide

theorem pairwise_inOrder : inOrder.Pairwise (Report.Before (some approval) secondsOf) := by
  decide +kernel

/-- The one setup comes before the other, and in that the approved test case before the others. -/
theorem layout_inOrder (text : TestCase → String) :
    Report.layout (some approval) text none inOrder =
      String.join (["\n<!-- alpha -->\n<!-- not approved -->\n",
        "\n<!-- bench -->\n<!-- approved -->\n", "<!-- not approved -->\n", ""].zipWith
          (fun headers case => headers ++ (text case ++ "\n")) inOrder) := by
  have hplaces : inOrder.map (Report.place (some approval)) =
      [("alpha", some "not approved"), ("bench", some "approved"), ("bench", some "not approved"),
        ("bench", some "not approved")] := by decide +kernel
  have hheaders : Report.headers none ("alpha", some "not approved") =
        "\n<!-- alpha -->\n<!-- not approved -->\n" ∧
      Report.headers (some ("alpha", some "not approved")) ("bench", some "approved") =
        "\n<!-- bench -->\n<!-- approved -->\n" ∧
      Report.headers (some ("bench", some "approved")) ("bench", some "not approved") =
        "<!-- not approved -->\n" := by decide +kernel
  obtain ⟨halpha, hbench, hother⟩ := hheaders
  simp only [inOrder, List.map_cons, List.map_nil, List.cons.injEq, and_true] at hplaces
  obtain ⟨hfirst, hsecond, hthird, hfourth⟩ := hplaces
  simp only [inOrder, Report.layout, hfirst, hsecond, hthird, hfourth, halpha, hbench, hother,
    Report.headers_same, List.zipWith, String.join_cons, String.join_nil, String.append_assoc]

end Sample

namespace Report

/-- In the reverse order, too, the protocols are laid out as above. -/
theorem sample_report :
    protocols {} (some Sample.approval) Sample.reported.reverse =
      .ok (String.join (["\n<!-- alpha -->\n<!-- not approved -->\n",
        "\n<!-- bench -->\n<!-- approved -->\n", "<!-- not approved -->\n", ""].zipWith
          (fun headers case => headers ++ (Sample.protocolOf case ++ "\n")) Sample.inOrder)) := by
  obtain ⟨⟨ordered, hperm, hpairwise, htext⟩, hreverse⟩ :=
    protocols_eq_layout Sample.reportable_reported (some Sample.approval)
  have hordered : ordered = Sample.inOrder :=
    List.Perm.eq_of_pairwise (fun _ _ _ _ hab hba => absurd hba hab.asymm) hpairwise
      Sample.pairwise_inOrder (hperm.trans Sample.inOrder_perm.symm)
  rw [(hreverse _ (List.reverse_perm _)).1, htext, hordered, Sample.layout_inOrder]

end Report
end TestReach
