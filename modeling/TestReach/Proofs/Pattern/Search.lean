import Mathlib.Data.List.Range
import TestReach.Proofs.Pattern.Ends

namespace TestReach.Pattern.Node

variable {node : Node} {text : Array Char} {nonEmpty : Bool} {pos : Nat} {found : Found}

/-- A match is the first end, of those that hold a character if that is wanted. -/
theorem matchAt_eq_find? (node : Node) (text : Array Char) (nonEmpty : Bool) (pos : Nat) :
    node.matchAt text nonEmpty pos =
      ((node.ends text { pos }).find? fun s => !(nonEmpty && s.pos == pos)).map (⟨pos, ·⟩) := by
  rw [matchAt, run_eq_findSome?, List.find?_eq_findSome?_guard]
  congr 2
  funext s
  cases hbarred : nonEmpty && s.pos == pos <;> simp [Option.guard, hbarred]

theorem mem_ends_of_matchAt (h : node.matchAt text nonEmpty pos = some found) :
    found.start = pos ∧ found.final ∈ node.ends text { pos := found.start } := by
  rw [matchAt_eq_find?, Option.map_eq_some_iff] at h
  obtain ⟨s, hs, rfl⟩ := h
  exact ⟨rfl, List.mem_of_find?_eq_some hs⟩

theorem matchAt_eq_none_iff : node.matchAt text false pos = none ↔ node.ends text { pos } = [] := by
  rw [matchAt_eq_find?]
  cases node.ends text { pos } <;> simp

theorem searchFrom_eq_some {fuel : Nat} (h : node.searchFrom text fuel nonEmpty pos = some found) :
    pos ≤ found.start ∧ found.start < pos + fuel ∧
      node.matchAt text (nonEmpty && found.start == pos) found.start = some found ∧
      ∀ q, pos ≤ q → q < found.start → node.matchAt text (nonEmpty && q == pos) q = none := by
  induction fuel generalizing nonEmpty pos with
  | zero => cases h
  | succ fuel ih =>
    unfold searchFrom at h
    cases hfirst : node.matchAt text nonEmpty pos with
    | some first =>
      obtain rfl : first = found := by simpa [hfirst] using h
      obtain ⟨rfl, -⟩ := mem_ends_of_matchAt hfirst
      exact ⟨le_rfl, by omega, by simpa using hfirst, fun q hq hq' => by omega⟩
    | none =>
      obtain ⟨hle, hlt, hmatch, hbefore⟩ := ih (by simpa [hfirst] using h)
      have hne : (found.start == pos) = false := by simp; omega
      refine ⟨by omega, by omega, by simpa [hne] using hmatch, fun q hq hq' => ?_⟩
      rcases Nat.eq_or_lt_of_le hq with rfl | hq
      · simpa using hfirst
      · have hne : (q == pos) = false := by simp; omega
        simpa [hne] using hbefore q hq hq'

theorem searchFrom_eq_none {fuel : Nat} (h : node.searchFrom text fuel nonEmpty pos = none) {q : Nat}
    (hle : pos ≤ q) (hlt : q < pos + fuel) : node.matchAt text (nonEmpty && q == pos) q = none := by
  induction fuel generalizing nonEmpty pos with
  | zero => omega
  | succ fuel ih =>
    unfold searchFrom at h
    cases hfirst : node.matchAt text nonEmpty pos with
    | some first => simp [hfirst] at h
    | none =>
      rcases Nat.eq_or_lt_of_le hle with rfl | hle
      · simpa using hfirst
      · have hne : (q == pos) = false := by simp; omega
        have hlater := ih (by simpa [hfirst] using h) hle (by omega)
        simpa only [hne, Bool.false_and, Bool.and_false] using hlater

theorem search_eq_some (h : node.search text nonEmpty pos = some found) :
    pos ≤ found.start ∧ found.start ≤ text.size ∧
      node.matchAt text (nonEmpty && found.start == pos) found.start = some found ∧
      ∀ q, pos ≤ q → q < found.start → node.matchAt text (nonEmpty && q == pos) q = none := by
  obtain ⟨hle, hlt, hmatch, hbefore⟩ := searchFrom_eq_some h
  exact ⟨hle, by omega, hmatch, hbefore⟩

theorem search_eq_none (h : node.search text nonEmpty pos = none) {q : Nat} (hle : pos ≤ q)
    (hsize : q ≤ text.size) : node.matchAt text (nonEmpty && q == pos) q = none :=
  searchFrom_eq_none h hle (by omega)

theorem exists_search_of_ends {s : State} (hs : s ∈ node.ends text { pos }) (hpos : pos ≤ text.size) :
    ∃ found, node.search text false 0 = some found := by
  cases h : node.search text false 0 with
  | some found => exact ⟨found, rfl⟩
  | none =>
    have hnone := search_eq_none h (Nat.zero_le _) hpos
    rw [Bool.false_and, matchAt_eq_none_iff] at hnone
    rw [hnone] at hs
    cases hs

theorem mem_ends_of_search (h : node.search text nonEmpty pos = some found) :
    found.final ∈ node.ends text { pos := found.start } :=
  (mem_ends_of_matchAt (search_eq_some h).2.2.1).2

theorem search_of_first (hpos : pos ≤ text.size)
    (h : node.matchAt text false pos = some found)
    (hbefore : ∀ q, q < pos → node.ends text { pos := q } = []) :
    node.search text false 0 = some found := by
  cases hsearch : node.search text false 0 with
  | none =>
    have hnone := search_eq_none hsearch (Nat.zero_le pos) hpos
    rw [Bool.false_and, h] at hnone
    cases hnone
  | some first =>
    obtain ⟨-, -, hmatch, hnone⟩ := search_eq_some hsearch
    rw [Bool.false_and] at hmatch
    rcases Nat.lt_trichotomy first.start pos with hlt | heq | hgt
    · have hempty := matchAt_eq_none_iff.mpr (hbefore _ hlt)
      rw [hmatch] at hempty
      cases hempty
    · rw [heq, h] at hmatch
      exact hmatch.symm
    · have hempty := hnone pos (Nat.zero_le pos) hgt
      rw [Bool.false_and, h] at hempty
      cases hempty

theorem mem_spansFrom {fuel : Nat} {span : Span} (h : span ∈ node.spansFrom text fuel nonEmpty pos) :
    span.start ≤ span.stop ∧ span.stop ≤ text.size := by
  induction fuel generalizing nonEmpty pos with
  | zero => cases h
  | succ fuel ih =>
    unfold spansFrom at h
    split at h
    · rename_i found hfound
      rcases List.mem_cons.mp h with rfl | h
      · exact node.ends_advances text _ (search_eq_some hfound).2.1 _ (mem_ends_of_search hfound)
      · exact ih h
    · cases h

theorem span_bounds {span : Span} (h : span ∈ node.spans text) :
    span.start ≤ span.stop ∧ span.stop ≤ text.size :=
  mem_spansFrom h

section Disjoint

variable {holds : Nat → Bool} {width : Nat}

theorem filter_range'_eq_cons {first stop : Nat} (hle : pos ≤ first) (hfirst : holds first = true)
    (hbefore : ∀ q, pos ≤ q → q < first → holds q = false)
    (hdisjoint : ∀ q, holds q = true → first < q → first + width ≤ q) (hwidth : 0 < width)
    (hstop : first + width ≤ stop) :
    (List.range' pos (stop - pos)).filter holds =
      first :: (List.range' (first + width) (stop - (first + width))).filter holds := by
  have hsplit : List.range' pos (stop - pos) = List.range' pos (first - pos) ++ first ::
      (List.range' (first + 1) (width - 1) ++
        List.range' (first + width) (stop - (first + width))) := by
    rw [show first + width = first + 1 + (width - 1) by omega, List.range'_append_1,
      ← List.range'_succ]
    nth_rewrite 2 [show first = pos + (first - pos) by omega]
    rw [List.range'_append_1]
    congr 1
    omega
  have hnone : (List.range' pos (first - pos)).filter holds = [] := by
    rw [List.filter_eq_nil_iff]
    intro q hq
    obtain ⟨hge, hlt⟩ := List.mem_range'_1.mp hq
    simp [hbefore q hge (by omega)]
  have hoverlap : (List.range' (first + 1) (width - 1)).filter holds = [] := by
    rw [List.filter_eq_nil_iff]
    intro q hq hholds
    obtain ⟨hge, hlt⟩ := List.mem_range'_1.mp hq
    have := hdisjoint q hholds (by omega)
    omega
  rw [hsplit, List.filter_append, hnone, List.filter_cons_of_pos hfirst, List.filter_append, hoverlap]
  rfl

theorem spansFrom_eq_filter (hwidth : 0 < width)
    (hmatch : ∀ nonEmpty pos, node.matchAt text nonEmpty pos =
      if holds pos then some ⟨pos, { pos := pos + width }⟩ else none)
    (hfits : ∀ p, holds p = true → p + width ≤ text.size)
    (hdisjoint : ∀ p q, holds p = true → holds q = true → p < q → p + width ≤ q) {fuel : Nat}
    (hfuel : text.size < pos + fuel) :
    node.spansFrom text fuel nonEmpty pos =
      ((List.range' pos (text.size - pos)).filter holds).map fun p => ⟨p, p + width⟩ := by
  induction fuel generalizing nonEmpty pos with
  | zero => simp [spansFrom, show text.size - pos = 0 by omega]
  | succ fuel ih =>
    unfold spansFrom
    cases hsearch : node.search text nonEmpty pos with
    | none =>
      have hempty : (List.range' pos (text.size - pos)).filter holds = [] := by
        rw [List.filter_eq_nil_iff]
        intro q hq hholds
        obtain ⟨hge, hlt⟩ := List.mem_range'_1.mp hq
        have hnone := search_eq_none hsearch hge (by omega)
        rw [hmatch, if_pos hholds] at hnone
        cases hnone
      rw [hempty]
      rfl
    | some found =>
      obtain ⟨hle, -, hfound, hbefore⟩ := search_eq_some hsearch
      have hfirst : holds found.start = true := by
        by_contra hnot
        rw [hmatch, if_neg hnot] at hfound
        cases hfound
      rw [hmatch, if_pos hfirst] at hfound
      have hstop : found.final.pos = found.start + width := by
        rw [← Option.some.inj hfound]
      have hnone : ∀ q, pos ≤ q → q < found.start → holds q = false := by
        intro q hq hq'
        have hq := hbefore q hq hq'
        rw [hmatch] at hq
        simpa using hq
      have hnext := hfits _ hfirst
      -- The search goes on at the end of the match: a match that began before that would overlap it.
      rw [filter_range'_eq_cons hle hfirst hnone (fun q => hdisjoint _ q hfirst) hwidth hnext,
        List.map_cons]
      dsimp only
      rw [Found.span, hstop, ih (by omega)]

/-- Where matches have one width and cannot overlap, all of them are found, from left to right. -/
theorem spans_eq_filter (hwidth : 0 < width)
    (hmatch : ∀ nonEmpty pos, node.matchAt text nonEmpty pos =
      if holds pos then some ⟨pos, { pos := pos + width }⟩ else none)
    (hfits : ∀ p, holds p = true → p + width ≤ text.size)
    (hdisjoint : ∀ p q, holds p = true → holds q = true → p < q → p + width ≤ q) :
    node.spans text = ((List.range text.size).filter holds).map fun p => ⟨p, p + width⟩ := by
  rw [spans, spansFrom_eq_filter hwidth hmatch hfits hdisjoint (by omega), List.range_eq_range']
  rfl

end Disjoint

end TestReach.Pattern.Node
