import TestReach.Proofs.Escape
import TestReach.Report.Document

namespace TestReach

namespace Text

variable {c : Char} {text : List Char}

theorem singleton_prefix_iff : [c] <+: text ↔ text.head? = some c := by
  cases text <;> simp [eq_comm]

theorem head?_of_prefix {rest : List Char} (h : c :: rest <+: text) : text.head? = some c := by
  obtain ⟨more, rfl⟩ := h
  rfl

end Text

namespace Xml

open Text

variable {c : Char} {data : List Char}

theorem head?_apart (data : List Char) : (apart data).head? = data.head? := by
  induction data using apart_induction with
  | nil => rfl
  | pair data => rw [apart_pair]; rfl
  | other c data hother => rw [apart_cons hother]; rfl

/-- Two dashes stand side by side in a comment just when three do in its data: the last of them is left
after a pair that is taken apart. -/
theorem pair_infix_apart_iff (data : List Char) :
    ['-', '-'] <:+: apart data ↔ ['-', '-', '-'] <:+: data := by
  induction data using apart_induction with
  | nil => simp
  | pair data ih =>
    have hnext : ['-', '-'] <+: data → data.head? = some '-' := head?_of_prefix
    rw [apart_pair]
    simp only [List.infix_cons_iff, ih, List.cons_prefix_cons, singleton_prefix_iff, head?_apart]
    grind
  | other c data hother ih =>
    have hnext : ['-', '-'] <+: data → data.head? = some '-' := head?_of_prefix
    rw [apart_cons hother, List.infix_cons_iff, List.infix_cons_iff, ih]
    simp only [List.cons_prefix_cons, singleton_prefix_iff, head?_apart] at hother ⊢
    grind

/-- An odd number of dashes, three or more and none before them, stands before a closing bracket. -/
def ClosesEarly (data : List Char) : Prop :=
  ∃ before after n, data = before ++ (List.replicate (2 * n + 3) '-' ++ '>' :: after) ∧
    before.getLast? ≠ some '-'

theorem bracket_prefix_apart_iff : ['-', '>'] <+: apart data ↔ ['-', '>'] <+: data := by
  cases data using apart_induction with
  | nil => rfl
  | pair data => simp [apart_pair]
  | other c data hother =>
    rw [apart_cons hother, List.cons_prefix_cons, List.cons_prefix_cons, singleton_prefix_iff,
      singleton_prefix_iff, head?_apart]

theorem closesEarly_pair_iff :
    ClosesEarly ('-' :: '-' :: data) ↔ ['-', '>'] <+: data ∨ ClosesEarly data := by
  constructor
  · rintro ⟨before, after, n, heq, hbefore⟩
    match before with
    | [] =>
      have hdata : data = List.replicate (2 * n + 1) '-' ++ '>' :: after := by
        simpa [List.replicate_succ] using heq
      cases n with
      | zero => exact Or.inl ⟨after, hdata.symm⟩
      | succ n => exact Or.inr ⟨[], after, n, by rw [hdata]; rfl, by simp⟩
    | [c] =>
      obtain ⟨rfl, -⟩ := List.cons.inj heq
      exact absurd rfl hbefore
    | c :: d :: before =>
      obtain ⟨-, heq⟩ := List.cons.inj heq
      obtain ⟨hd, hdata⟩ := List.cons.inj heq
      refine Or.inr ⟨before, after, n, hdata, ?_⟩
      cases before with
      | nil => simp
      | cons e before => simpa using hbefore
  · rintro (⟨after, rfl⟩ | ⟨before, after, n, rfl, hbefore⟩)
    · exact ⟨[], after, 0, rfl, by simp⟩
    · cases before with
      | nil => exact ⟨[], after, n + 1, rfl, by simp⟩
      | cons c before => exact ⟨'-' :: '-' :: c :: before, after, n, rfl, by simpa using hbefore⟩

theorem closesEarly_cons_iff (h : ¬ ['-', '-'] <+: c :: data) :
    ClosesEarly (c :: data) ↔ ClosesEarly data := by
  constructor
  · rintro ⟨before, after, n, heq, hbefore⟩
    cases before with
    | nil => exact absurd ⟨_, heq.symm⟩ h
    | cons d before =>
      refine ⟨before, after, n, (List.cons.inj heq).2, ?_⟩
      cases before with
      | nil => simp
      | cons e before => simpa using hbefore
  · rintro ⟨before, after, n, rfl, hbefore⟩
    refine ⟨c :: before, after, n, rfl, ?_⟩
    cases before with
    | nil =>
      -- The dashes that follow would make a pair with a dash before them.
      rintro hc
      obtain rfl : c = '-' := by simpa using hc
      exact h (by simp [List.replicate_succ])
    | cons e before => simpa using hbefore

/-- The mark that ends a comment stands in its text just when an odd number of dashes, three or more,
stands before a closing bracket in its data. -/
theorem mark_infix_apart_iff (data : List Char) :
    ['-', '-', '>'] <:+: apart data ↔ ClosesEarly data := by
  induction data using apart_induction with
  | nil => simp [ClosesEarly]
  | pair data ih =>
    rw [apart_pair, closesEarly_pair_iff, ← ih, ← bracket_prefix_apart_iff]
    simp [List.infix_cons_iff]
  | other c data hother ih =>
    rw [apart_cons hother, closesEarly_cons_iff hother, List.infix_cons_iff, ih, or_iff_right]
    intro hstarts
    obtain ⟨hc, hnext⟩ := List.cons_prefix_cons.mp hstarts
    have hhead := head?_of_prefix hnext
    rw [head?_apart] at hhead
    exact hother (by rw [List.cons_prefix_cons, singleton_prefix_iff]; exact ⟨hc, hhead⟩)

/-- `text` is one comment: between its marks no two dashes stand side by side, and no dash is last. -/
def IsComment (text : List Char) : Prop :=
  ∃ body, text = "<!--".toList ++ body ++ "-->".toList ∧ ¬ ['-', '-'] <:+: body ++ ['-']

theorem isComment_comment_iff (data : String) :
    IsComment (comment data).toList ↔ ¬ ['-', '-', '-'] <:+: data.toList := by
  have hcomment : (comment data).toList =
      "<!--".toList ++ (' ' :: (apart data.toList ++ [' '])) ++ "-->".toList := by
    rw [comment, String.toList_append, String.toList_append, toList_commentText]
    simp
  have hbody : ['-', '-'] <:+: (' ' :: (apart data.toList ++ [' '])) ++ ['-'] ↔
      ['-', '-'] <:+: apart data.toList := by
    have haround : ['-', '-'] <:+: apart data.toList ++ ([' '] ++ ['-']) ↔
        ['-', '-'] <:+: apart data.toList ∨ ['-', '-'] <:+: ['-'] :=
      infix_around_iff (by simp) (by simp) (by simp)
    simpa [List.infix_cons_iff] using haround
  rw [← pair_infix_apart_iff, ← hbody]
  constructor
  · rintro ⟨body, heq, hnot⟩
    rw [hcomment] at heq
    rwa [List.append_cancel_left (List.append_cancel_right heq)]
  · exact fun hnot => ⟨_, hcomment, hnot⟩

end Xml

namespace Report

theorem isComment_search_iff (search : String) :
    Xml.IsComment (Xml.comment ("SEARCH: " ++ search)).toList ↔ ¬ ['-', '-', '-'] <:+: search.toList := by
  rw [Xml.isComment_comment_iff, String.toList_append, ← List.nil_append ("SEARCH: ".toList ++ _),
    Text.infix_around_iff (by simp) (by simp) (by simp)]
  simp

theorem isComment_summary_iff (info : TestCase.Info) :
    Xml.IsComment (Xml.comment (summary info)).toList ↔
      ¬ ['-', '-', '-'] <:+: info.estimate.toList ∧ ¬ ['-', '-', '-'] <:+: info.setup.toList := by
  rw [Xml.isComment_comment_iff, summary]
  simp only [String.toList_append, List.append_assoc]
  rw [← List.nil_append ("Duration: ".toList ++ _),
    Text.infix_around_iff (by simp) (by simp) (by simp),
    Text.infix_around_iff (by simp) (by simp) (by simp), not_or, not_or]
  simp

/-- A comment of a report is one just when no three dashes stand side by side in what it says: in the
search, in the key of a setup, in an estimate or a setup. Two dashes are left side by side in its text
just when three stand in its data, and the mark that ends it just when an odd number of them, three or
more, stands before a closing bracket. -/
theorem comments_intact_iff (data search setup : String) (info : TestCase.Info) :
    (['-', '-'] <:+: (Xml.commentText data).toList ↔ ['-', '-', '-'] <:+: data.toList) ∧
    (['-', '-', '>'] <:+: (Xml.commentText data).toList ↔ Xml.ClosesEarly data.toList) ∧
    (Xml.IsComment (Xml.comment ("SEARCH: " ++ search)).toList ↔
      ¬ ['-', '-', '-'] <:+: search.toList) ∧
    (Xml.IsComment (Xml.comment (setupKey setup)).toList ↔
      ¬ ['-', '-', '-'] <:+: (setupKey setup).toList) ∧
    (Xml.IsComment (Xml.comment (summary info)).toList ↔
      ¬ ['-', '-', '-'] <:+: info.estimate.toList ∧ ¬ ['-', '-', '-'] <:+: info.setup.toList) := by
  refine ⟨?_, ?_, isComment_search_iff search, Xml.isComment_comment_iff _, isComment_summary_iff info⟩
  · rw [Xml.toList_commentText, Xml.pair_infix_apart_iff]
  · rw [Xml.toList_commentText, Xml.mark_infix_apart_iff]

/-- A search with three dashes and a bracket ends its comment in the report. -/
theorem dashes_end_comment :
    ¬ (∀ data : String, ¬ ['-', '-'] <:+: (Xml.commentText data).toList) ∧
      render { template := searchPlace, search := "a--->b" } [] = .ok "<!-- SEARCH: a- -->b -->" := by
  refine ⟨fun hnone => hnone "a--->b" (by decide +kernel), ?_⟩
  decide +kernel

end Report
end TestReach
