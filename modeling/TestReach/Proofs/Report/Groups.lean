import Mathlib.Data.List.Induction
import Mathlib.Data.List.Nodup
import TestReach.Proofs.Catalog
import TestReach.Report.Section

namespace TestReach

namespace Text

/-- Whether a text comes before another one when characters are compared by their code points. -/
def CodePointsBefore (a b : String) : Prop :=
  List.Lex (fun c d : Char => c.toNat < d.toNat) a.toList b.toList

variable {a b : String}

instance (a b : String) : Decidable (CodePointsBefore a b) :=
  inferInstanceAs (Decidable (List.Lex _ _ _))

theorem codePointsBefore_of_not_le (h : ¬ b ≤ a) : CodePointsBefore a b :=
  String.not_le.mp h

theorem codePointsBefore_of_le (h : a ≤ b) (hne : a ≠ b) : CodePointsBefore a b :=
  codePointsBefore_of_not_le fun hle => hne (String.le_antisymm h hle)

theorem CodePointsBefore.asymm (h : CodePointsBefore a b) : ¬ CodePointsBefore b a :=
  fun hba => String.lt_asymm h hba

end Text

namespace Report

variable {cases group : TestCase.Cases} {groups : Catalog TestCase.Cases} {setup : String}
  {entry : String × TestCase} {approval : Option Approval}

def isUnder (setup : String) (entry : String × TestCase) : Bool :=
  setupKey entry.2.info.setup == setup

/-- The groups hold all test cases, in order, each under its setup; no group is empty. -/
structure Grouped (cases : TestCase.Cases) (groups : Catalog TestCase.Cases) : Prop where
  nodup : groups.keys.Nodup
  mem_iff {setup : String} {group : TestCase.Cases} :
    (setup, group) ∈ groups ↔ group = cases.filter (isUnder setup) ∧ group ≠ []

theorem Grouped.nil : Grouped [] [] := by
  constructor
  · exact List.nodup_nil
  · intro setup group
    simp

theorem Grouped.get?_getD (h : Grouped cases groups) (setup : String) :
    (groups.get? setup).getD [] = cases.filter (isUnder setup) := by
  cases hget : groups.get? setup with
  | some group =>
    have hmem := (Catalog.get?_eq_some_iff h.nodup).mp hget
    exact (h.mem_iff.mp hmem).1
  | none =>
    by_contra hne
    have hmem : (setup, cases.filter (isUnder setup)) ∈ groups := h.mem_iff.mpr ⟨rfl, Ne.symm hne⟩
    rw [(Catalog.get?_eq_some_iff h.nodup).mpr hmem] at hget
    cases hget

theorem Grouped.intoGroup (h : Grouped cases groups) (hnew : entry.1 ∉ Catalog.keys cases) :
    Grouped (cases ++ [entry]) (intoGroup groups entry) := by
  have hnotin : entry.1 ∉ Catalog.keys (cases.filter (isUnder (setupKey entry.2.info.setup))) := by
    intro hmem
    obtain ⟨other, hother, hsame⟩ := List.mem_map.mp hmem
    exact hnew (List.mem_map.mpr ⟨other, List.mem_of_mem_filter hother, hsame⟩)
  have hput : Report.intoGroup groups entry = groups.put (setupKey entry.2.info.setup)
      ((cases ++ [entry]).filter (isUnder (setupKey entry.2.info.setup))) := by
    rw [Report.intoGroup, h.get?_getD, Catalog.put_of_not_mem hnotin, List.filter_append]
    simp [isUnder]
  rw [hput]
  constructor
  · exact Catalog.nodup_keys_put h.nodup _ _
  intro setup group
  rw [Catalog.mem_put_iff h.nodup, Prod.mk.injEq, h.mem_iff]
  by_cases hsetup : setup = setupKey entry.2.info.setup
  · subst hsetup
    simp only [true_and, ne_eq, not_true_eq_false, false_and, or_false]
    constructor
    · rintro rfl
      refine ⟨rfl, ?_⟩
      rw [List.filter_append]
      simp [isUnder]
    · exact fun hgroup => hgroup.1
  · have hfilter : (cases ++ [entry]).filter (isUnder setup) = cases.filter (isUnder setup) := by
      rw [List.filter_append]
      simp [isUnder, Ne.symm hsetup]
    rw [hfilter]
    simp [hsetup]

theorem grouped_foldl (h : (Catalog.keys cases).Nodup) :
    Grouped cases (cases.foldl intoGroup ([] : Catalog TestCase.Cases)) := by
  induction cases using List.reverseRecOn with
  | nil => exact .nil
  | append_singleton before entry ih =>
    rw [Catalog.keys, List.map_append, List.nodup_append] at h
    obtain ⟨hbefore, -, hnew⟩ := h
    rw [List.foldl_append]
    apply (ih hbefore).intoGroup
    intro hmem
    exact hnew _ hmem _ (List.mem_singleton_self _) rfl

theorem mem_groups (h : (Catalog.keys cases).Nodup) :
    (setup, group) ∈ Report.groups cases ↔ group = cases.filter (isUnder setup) ∧ group ≠ [] := by
  rw [Report.groups, List.mem_mergeSort]
  exact (grouped_foldl h).mem_iff

theorem pairwise_groups (h : (Catalog.keys cases).Nodup) :
    (Report.groups cases).Pairwise fun a b => Text.CodePointsBefore a.1 b.1 := by
  have hle : (Report.groups cases).Pairwise fun a b => decide (a.1 ≤ b.1) = true := by
    apply List.pairwise_mergeSort
    · intro a b c hab hbc
      simp only [decide_eq_true_eq] at hab hbc ⊢
      exact String.le_trans hab hbc
    · intro a b
      simpa using String.le_total a.1 b.1
  have hne : (Report.groups cases).Pairwise fun a b => a.1 ≠ b.1 := by
    have hkeys : ((Report.groups cases).map (·.1)).Nodup :=
      ((List.mergeSort_perm _ _).map _).nodup_iff.mpr (grouped_foldl h).nodup
    exact List.pairwise_map.mp hkeys
  apply (hle.and hne).imp
  rintro a b ⟨hab, hne⟩
  exact Text.codePointsBefore_of_le (of_decide_eq_true hab) hne

def Approval.approves (approval : Approval) (case : TestCase) : Bool :=
  approval.plan.approves approval.statuses case.info.identifier

/-- The title of the section of a test case, if work items are given. -/
def title (approval : Option Approval) (case : TestCase) : Option String :=
  approval.map fun approval => if approval.approves case then "approved" else "not approved"

/-- One for the test cases that are not approved although work items are given, else zero. -/
def rank (approval : Option Approval) (case : TestCase) : Nat :=
  if approval.any (!·.approves case) then 1 else 0

/-- The sections hold all test cases of a group, each under its title and approved ones first; no
section is empty. -/
structure Split (approval : Option Approval) (group : TestCase.Cases) (parts : List Section) :
    Prop where
  mem_iff {entry : String × TestCase} : (∃ part ∈ parts, entry ∈ part.cases) ↔ entry ∈ group
  sublist {part : Section} : part ∈ parts → part.cases.Sublist group
  title {part : Section} : part ∈ parts →
    part.cases ≠ [] ∧ ∀ entry ∈ part.cases, title approval entry.2 = part.title
  pairwise : parts.Pairwise fun a b => a.title ≠ b.title ∧
    ∀ x ∈ a.cases, ∀ y ∈ b.cases, rank approval x.2 < rank approval y.2

theorem sections_of_approval (approval : Approval)
    (hidentifier : ∀ entry ∈ group, entry.2.info.identifier = entry.1) :
    sections (some approval) group =
      [⟨some "approved", group.filter (approval.approves ·.2)⟩,
        ⟨some "not approved", group.filter (!approval.approves ·.2)⟩].filter (!·.cases.isEmpty) := by
  have happroves : ∀ entry ∈ group,
      approval.plan.approves approval.statuses entry.1 = approval.approves entry.2 := by
    intro entry hentry
    rw [Approval.approves, hidentifier entry hentry]
  have happroved := List.filter_congr happroves
  have hother := List.filter_congr fun entry hentry => congrArg (!·) (happroves entry hentry)
  simp only [sections, happroved, hother]

theorem sections_split (approval : Option Approval) (hgroup : group ≠ [])
    (hidentifier : ∀ entry ∈ group, entry.2.info.identifier = entry.1) :
    Split approval group (sections approval group) := by
  cases approval with
  | none => constructor <;> simp [sections, hgroup, title]
  | some approval =>
    rw [sections_of_approval approval hidentifier]
    constructor
    · intro entry
      constructor
      · rintro ⟨part, hpart, hentry⟩
        simp only [List.mem_filter, List.mem_cons, List.not_mem_nil, or_false] at hpart
        obtain ⟨rfl | rfl, -⟩ := hpart
        · exact List.mem_of_mem_filter hentry
        · exact List.mem_of_mem_filter hentry
      · intro hentry
        cases happroved : approval.approves entry.2 with
        | true =>
          have hmem : entry ∈ group.filter (approval.approves ·.2) :=
            List.mem_filter.mpr ⟨hentry, happroved⟩
          refine ⟨_, List.mem_filter.mpr ⟨List.mem_cons_self, ?_⟩, hmem⟩
          simpa using List.ne_nil_of_mem hmem
        | false =>
          have hmem : entry ∈ group.filter (!approval.approves ·.2) :=
            List.mem_filter.mpr ⟨hentry, by simp [happroved]⟩
          refine ⟨_, List.mem_filter.mpr ⟨List.mem_cons_of_mem _ List.mem_cons_self, ?_⟩, hmem⟩
          simpa using List.ne_nil_of_mem hmem
    · intro part hpart
      simp only [List.mem_filter, List.mem_cons, List.not_mem_nil, or_false] at hpart
      obtain ⟨rfl | rfl, -⟩ := hpart
      · exact List.filter_sublist
      · exact List.filter_sublist
    · intro part hpart
      simp only [List.mem_filter, List.mem_cons, List.not_mem_nil, or_false] at hpart
      obtain ⟨hpart, hnonempty⟩ := hpart
      refine ⟨by simpa using hnonempty, ?_⟩
      rcases hpart with rfl | rfl
      · intro entry hentry
        simp [title, (List.mem_filter.mp hentry).2]
      · intro entry hentry
        have hnot : approval.approves entry.2 = false := by simpa using (List.mem_filter.mp hentry).2
        simp [title, hnot]
    -- Approved test cases rank before the others, and their section comes first.
    · apply List.Pairwise.filter
      apply List.pairwise_pair.mpr
      refine ⟨by simp, fun x hx y hy => ?_⟩
      have hx : approval.approves x.2 = true := by simpa using (List.mem_filter.mp hx).2
      have hy : approval.approves y.2 = false := by simpa using (List.mem_filter.mp hy).2
      simp [rank, hx, hy]

structure ByIdentifier (cases : TestCase.Cases) : Prop where
  nodup : (Catalog.keys cases).Nodup
  identifier : ∀ entry ∈ cases, entry.2.info.identifier = entry.1

namespace ByIdentifier

theorem identifier_of_group (h : ByIdentifier cases) (hgroup : (setup, group) ∈ Report.groups cases) :
    ∀ entry ∈ group, entry.2.info.identifier = entry.1 := by
  obtain ⟨rfl, -⟩ := (mem_groups h.nodup).mp hgroup
  exact fun entry hentry => h.identifier entry (List.mem_of_mem_filter hentry)

theorem exists_group (h : ByIdentifier cases) (hentry : entry ∈ cases) :
    ∃ group, (setupKey entry.2.info.setup, group) ∈ Report.groups cases ∧ entry ∈ group := by
  have hunder : entry ∈ cases.filter (isUnder (setupKey entry.2.info.setup)) :=
    List.mem_filter.mpr ⟨hentry, by simp [isUnder]⟩
  exact ⟨_, (mem_groups h.nodup).mpr ⟨rfl, List.ne_nil_of_mem hunder⟩, hunder⟩

theorem split (h : ByIdentifier cases) (approval : Option Approval)
    (hgroup : (setup, group) ∈ Report.groups cases) : Split approval group (sections approval group) :=
  sections_split approval ((mem_groups h.nodup).mp hgroup).2 (h.identifier_of_group hgroup)

end ByIdentifier

end Report
end TestReach
