import Mathlib.Data.List.Nodup
import Mathlib.Data.List.Perm.Subperm
import TestReach.Proofs.Term

namespace TestReach

namespace Span

/-- `a` is found before `b`: it ends where `b` begins or earlier, and if both begin at the same place
then only `a` is empty. -/
def Before (a b : Span) : Prop :=
  a.stop ≤ b.start ∧ (a.start < b.start ∨ a.start = b.start ∧ a.start = a.stop ∧ b.start < b.stop)

/-- Spans in a text of `length` characters, each found before those that follow it. -/
structure Successive (length : Nat) (spans : List Span) : Prop where
  inside : ∀ span ∈ spans, span.start ≤ span.stop ∧ span.stop ≤ length
  ordered : spans.Pairwise Before

/-- Two places in a list of spans for each place in the text: one for the empty span that begins there
and one for the others. -/
def rank (span : Span) : Nat :=
  2 * span.start + if span.start < span.stop then 1 else 0

theorem Before.rank_lt {a b : Span} (h : a.Before b) : a.rank < b.rank := by
  obtain ⟨-, hlt | ⟨hstart, hempty, hsome⟩⟩ := h
  · unfold rank
    split <;> split <;> omega
  · rw [rank, if_neg (by omega), rank, if_pos hsome]
    omega

namespace Successive

variable {length : Nat} {spans : List Span}

theorem nodup_rank (h : Successive length spans) : (spans.map rank).Nodup := by
  apply List.pairwise_map.mpr
  apply h.ordered.imp
  intro a b hab
  exact Nat.ne_of_lt hab.rank_lt

theorem nodup (h : Successive length spans) : spans.Nodup :=
  h.nodup_rank.of_map rank

theorem length_le (h : Successive length spans) : spans.length ≤ 2 * length + 1 := by
  -- At the end of the text only an empty span is left, so no rank is above `2 * length`.
  have hranks : spans.map rank ⊆ List.range (2 * length + 1) := by
    intro n hn
    obtain ⟨span, hspan, rfl⟩ := List.mem_map.mp hn
    obtain ⟨hle, hstop⟩ := h.inside span hspan
    rw [List.mem_range, rank]
    split <;> omega
  simpa using (h.nodup_rank.subperm hranks).length_le

end Successive
end Span

namespace Text

variable {needle text : List Char} {pos skip : Nat}

theorem le_start_of_mem_occurrencesFrom {span : Span}
    (h : span ∈ occurrencesFrom needle pos skip text) : pos + skip ≤ span.start := by
  induction text generalizing pos skip with
  | nil => cases h
  | cons c rest ih =>
    unfold occurrencesFrom at h
    cases skip with
    | succ skip =>
      have := ih h
      omega
    | zero =>
      dsimp only at h
      split at h
      · rcases List.mem_cons.mp h with rfl | h
        · exact Nat.le_refl _
        · have := ih h
          omega
      · have := ih h
        omega

theorem pairwise_occurrencesFrom (needle text : List Char) (pos skip : Nat) :
    (occurrencesFrom needle pos skip text).Pairwise Span.Before := by
  induction text generalizing pos skip with
  | nil => exact List.Pairwise.nil
  | cons c rest ih =>
    unfold occurrencesFrom
    cases skip with
    | succ skip => exact ih _ _
    | zero =>
      dsimp only
      split
      · refine List.pairwise_cons.mpr ⟨fun later hlater => ?_, ih _ _⟩
        have hstart := le_start_of_mem_occurrencesFrom hlater
        dsimp only [Span.Before]
        omega
      · exact ih _ _

end Text

namespace Pattern.Node

variable {node : Node} {text : Array Char} {nonEmpty : Bool} {pos fuel : Nat} {span : Span}

/-- What is found from `pos` on begins there or later, and there it is not empty if that is barred. -/
def FoundFrom (nonEmpty : Bool) (pos : Nat) (span : Span) : Prop :=
  pos ≤ span.start ∧ (nonEmpty = true → span.start = pos → span.start < span.stop)

theorem foundFrom_of_search {found : Found} (h : node.search text nonEmpty pos = some found) :
    FoundFrom nonEmpty pos found.span := by
  obtain ⟨hle, hsize, hmatch, -⟩ := search_eq_some h
  refine ⟨hle, fun hbarred hstart => ?_⟩
  have hadvance := (node.ends_advances text _ hsize _ (mem_ends_of_search h)).1
  have hpos : found.start = pos := hstart
  rw [matchAt_eq_find?, hbarred, hpos, beq_self_eq_true, Option.map_eq_some_iff] at hmatch
  obtain ⟨s, hs, rfl⟩ := hmatch
  have hnot := List.find?_some hs
  simp only [Bool.and_true, Bool.true_and, Bool.not_eq_true', beq_eq_false_iff_ne] at hnot
  dsimp only [Found.span] at hadvance ⊢
  omega

theorem FoundFrom.next {found next : Span} (h : FoundFrom nonEmpty pos found)
    (hle : found.start ≤ found.stop) (hnext : FoundFrom (found.start == found.stop) found.stop next) :
    FoundFrom nonEmpty pos next ∧ found.Before next := by
  obtain ⟨hpos, hbarred⟩ := h
  obtain ⟨hstop, hsome⟩ := hnext
  rw [beq_iff_eq] at hsome
  -- `next` begins at `pos` only if `found` is empty there, and then it is barred from being empty too.
  refine ⟨⟨by omega, fun hnonEmpty hstart => ?_⟩, hstop, ?_⟩
  · have := hbarred hnonEmpty
    omega
  · omega

theorem foundFrom_of_mem_spansFrom (h : span ∈ node.spansFrom text fuel nonEmpty pos) :
    FoundFrom nonEmpty pos span := by
  induction fuel generalizing nonEmpty pos with
  | zero => cases h
  | succ fuel ih =>
    unfold spansFrom at h
    cases hsearch : node.search text nonEmpty pos with
    | none => simp [hsearch] at h
    | some found =>
      rw [hsearch] at h
      rcases List.mem_cons.mp h with rfl | hlater
      · exact foundFrom_of_search hsearch
      · have hadvance := node.ends_advances text _ (search_eq_some hsearch).2.1 _
          (mem_ends_of_search hsearch)
        exact ((foundFrom_of_search hsearch).next hadvance.1 (ih hlater)).1

theorem pairwise_spansFrom (node : Node) (text : Array Char) (fuel : Nat) (nonEmpty : Bool)
    (pos : Nat) : (node.spansFrom text fuel nonEmpty pos).Pairwise Span.Before := by
  induction fuel generalizing nonEmpty pos with
  | zero => exact List.Pairwise.nil
  | succ fuel ih =>
    unfold spansFrom
    cases hsearch : node.search text nonEmpty pos with
    | none => exact List.Pairwise.nil
    | some found =>
      have hadvance := node.ends_advances text _ (search_eq_some hsearch).2.1 _
        (mem_ends_of_search hsearch)
      refine List.pairwise_cons.mpr ⟨fun later hlater => ?_, ih _ _⟩
      exact ((foundFrom_of_search hsearch).next hadvance.1 (foundFrom_of_mem_spansFrom hlater)).2

theorem successive_spansFrom (node : Node) (text : Array Char) (fuel : Nat) (nonEmpty : Bool)
    (pos : Nat) : Span.Successive text.size (node.spansFrom text fuel nonEmpty pos) :=
  ⟨fun _ hspan => mem_spansFrom hspan, pairwise_spansFrom node text fuel nonEmpty pos⟩

theorem spansFrom_of_length_lt (h : (node.spansFrom text fuel nonEmpty pos).length < fuel)
    (more : Nat) :
    node.spansFrom text (fuel + more) nonEmpty pos = node.spansFrom text fuel nonEmpty pos := by
  induction fuel generalizing nonEmpty pos with
  | zero => cases h
  | succ fuel ih =>
    -- A step is left over, so the search ended with no match and not for want of steps.
    rw [Nat.add_right_comm]
    unfold spansFrom at h ⊢
    cases hsearch : node.search text nonEmpty pos with
    | none => rfl
    | some found =>
      rw [hsearch] at h
      dsimp only
      rw [ih (Nat.lt_of_succ_lt_succ h)]

theorem spansFrom_eq_spans (node : Node) (text : Array Char) (more : Nat) :
    node.spansFrom text (2 * text.size + 2 + more) false 0 = node.spans text :=
  spansFrom_of_length_lt
    (Nat.lt_succ_of_le (successive_spansFrom node text _ false 0).length_le) more

end Pattern.Node

namespace Term

theorem successive_findAll (term : Term) (source : String) :
    Span.Successive source.toList.length (term.findAll source) := by
  refine ⟨fun span hspan => span_bounds hspan, ?_⟩
  cases term with
  | literal needle => exact Text.pairwise_occurrencesFrom ..
  | pattern compiled => exact Pattern.Node.pairwise_spansFrom ..

end Term

namespace Pattern.Node

def emptyOrA : Node := .alt .empty (.seq (.one (.exactly 'a')) .empty)

theorem ends_emptyOrA {n p : Nat} (h : p < n) : emptyOrA.ends (Array.replicate n 'a') { pos := p } =
    [{ pos := p }, { pos := p + 1 }] := by
  simp [emptyOrA, ends, CharTest.admits, h]

theorem ends_emptyOrA_last (n : Nat) :
    emptyOrA.ends (Array.replicate n 'a') { pos := n } = [{ pos := n }] := by
  simp [emptyOrA, ends]

theorem search_of_matchAt {node : Node} {text : Array Char} {nonEmpty : Bool} {pos : Nat}
    {found : Found} (hpos : pos ≤ text.size) (h : node.matchAt text nonEmpty pos = some found) :
    node.search text nonEmpty pos = some found := by
  rw [search, show text.size + 1 - pos = text.size - pos + 1 by omega, searchFrom, h]
  rfl

/-- At each place but the last, first no character and then one. -/
theorem spansFrom_emptyOrA (p k : Nat) :
    emptyOrA.spansFrom (Array.replicate (p + k) 'a') (2 * k + 2) false p =
      (List.range' p k).flatMap (fun q => [⟨q, q⟩, ⟨q, q + 1⟩]) ++ [⟨p + k, p + k⟩] := by
  induction k generalizing p with
  | zero =>
    have hempty : emptyOrA.search (Array.replicate p 'a') false p = some ⟨p, { pos := p }⟩ := by
      apply search_of_matchAt (by simp)
      rw [matchAt_eq_find?, ends_emptyOrA_last]
      rfl
    have hnone : emptyOrA.search (Array.replicate p 'a') true p = none := by
      rw [search, Array.size_replicate, Nat.add_sub_cancel_left, searchFrom, matchAt_eq_find?,
        ends_emptyOrA_last]
      simp [searchFrom]
    rw [Nat.add_zero, spansFrom, hempty]
    dsimp only
    rw [beq_self_eq_true, spansFrom, hnone]
    rfl
  | succ k ih =>
    -- Two matches at `p`, then the `k` places behind it.
    have hlt : p < p + (k + 1) := Nat.lt_add_of_pos_right (Nat.succ_pos k)
    have hempty : emptyOrA.search (Array.replicate (p + (k + 1)) 'a') false p =
        some ⟨p, { pos := p }⟩ := by
      apply search_of_matchAt (by simp)
      rw [matchAt_eq_find?, ends_emptyOrA hlt]
      rfl
    have hone : emptyOrA.search (Array.replicate (p + (k + 1)) 'a') true p =
        some ⟨p, { pos := p + 1 }⟩ := by
      apply search_of_matchAt (by simp)
      rw [matchAt_eq_find?, ends_emptyOrA hlt]
      simp
    have hlater := ih (p + 1)
    rw [Nat.add_assoc, Nat.add_comm 1] at hlater
    have hapart : (p == p + 1) = false := by simp
    rw [show 2 * (k + 1) + 2 = 2 * k + 2 + 1 + 1 by omega, spansFrom, hempty]
    dsimp only
    rw [beq_self_eq_true, spansFrom, hone]
    dsimp only
    rw [hapart, hlater, List.range'_succ]
    rfl

end Pattern.Node

/-- Matches are found from left to right, each once and without overlap; of two at the same place the
first is empty and the second is not. So there are at most two for each character and one more, and
there can be as many in a text of any length. -/
theorem Term.spans_successive :
    (∀ (term : Term) (source : String),
      Span.Successive source.toList.length (term.findAll source) ∧ (term.findAll source).Nodup ∧
        (term.findAll source).length ≤ 2 * source.toList.length + 1) ∧
    ∃ term, Term.ofPattern? "|a" = .ok term ∧ ∀ n,
      term.findAll (String.ofList (List.replicate n 'a')) =
        (List.range n).flatMap (fun p => [⟨p, p⟩, ⟨p, p + 1⟩]) ++ [⟨n, n⟩] := by
  refine ⟨fun term source => ?_, .pattern ⟨"|a", Pattern.Node.emptyOrA, []⟩, rfl, fun n => ?_⟩
  · have hspans := term.successive_findAll source
    exact ⟨hspans, hspans.nodup, hspans.length_le⟩
  · have hspans := Pattern.Node.spansFrom_emptyOrA 0 n
    rw [Nat.zero_add, ← List.range_eq_range'] at hspans
    rw [Term.findAll, Pattern.findAll, Pattern.Node.spans, String.toList_ofList,
      List.toArray_replicate, Array.size_replicate]
    exact hspans

end TestReach
