import TestReach.Proofs.Pattern.WholeWord

namespace TestReach.Pattern

/-- Behind `before`, the nodes match the beginning of `after`, one after the other. -/
def Matches (nodes : List Node) (before after : List Char) : Prop :=
  ∃ s, s ∈ (Node.inOrder nodes).ends (before ++ after).toArray { pos := before.length }

variable {nodes : List Node} {before after text : List Char} {test : CharTest} {greed : Greed}

theorem isSome_search_iff : ((Node.inOrder nodes).search text.toArray false 0).isSome = true ↔
    ∃ before after, text = before ++ after ∧ Matches nodes before after := by
  rw [Option.isSome_iff_exists]
  constructor
  · rintro ⟨found, hfound⟩
    obtain ⟨-, hsize, -⟩ := Node.search_eq_some hfound
    rw [List.size_toArray] at hsize
    refine ⟨text.take found.start, text.drop found.start, (List.take_append_drop ..).symm, ?_⟩
    rw [Matches, List.take_append_drop, List.length_take_of_le hsize]
    exact ⟨_, Node.mem_ends_of_search hfound⟩
  · rintro ⟨before, after, rfl, s, hs⟩
    exact Node.exists_search_of_ends hs (by simp)

theorem matches_one : Matches (.one test :: nodes) before after ↔
    ∃ c rest, after = c :: rest ∧ test.admits c = true ∧ Matches nodes (before ++ [c]) rest := by
  have hnode : Node.inOrder (.one test :: nodes) = (Node.one test).seq (.inOrder nodes) := rfl
  simp only [Matches, hnode, mem_ends_seq, mem_ends_one, List.getElem?_toArray,
    List.getElem?_append_right le_rfl, Nat.sub_self]
  constructor
  · rintro ⟨s, _, ⟨⟨c, hc, hadmits⟩, rfl⟩, hs⟩
    obtain ⟨rest, rfl⟩ := List.head?_eq_some_iff.mp (List.head?_eq_getElem? ▸ hc)
    exact ⟨c, rest, rfl, hadmits, s, by simpa using hs⟩
  · rintro ⟨c, rest, rfl, hadmits, s, hs⟩
    exact ⟨s, _, ⟨⟨c, rfl, hadmits⟩, rfl⟩, by simpa using hs⟩

theorem stretch_iff_take {test : Char → Bool} {n : Nat} (hn : n ≤ after.length) :
    Stretch test (before ++ after).toArray before.length (before.length + n) ↔
      ∀ c ∈ after.take n, test c = true := by
  constructor
  · intro h c hc
    obtain ⟨i, hi, rfl⟩ := List.mem_iff_getElem.mp hc
    rw [List.length_take_of_le hn] at hi
    obtain ⟨d, hd, htest⟩ := h (before.length + i) (by omega) (by omega)
    rw [List.getElem?_toArray, List.getElem?_append_right (by omega), Nat.add_sub_cancel_left,
      List.getElem?_eq_getElem (by omega), Option.some.injEq] at hd
    rw [List.getElem_take, hd, htest]
  · intro h i hge hlt
    have hi : i - before.length < after.length := by omega
    refine ⟨after[i - before.length], ?_, h _ ?_⟩
    · rw [List.getElem?_toArray, List.getElem?_append_right hge, List.getElem?_eq_getElem hi]
    · exact List.mem_take_iff_getElem.mpr ⟨i - before.length, by omega, rfl⟩

theorem matches_many (hgreed : greed ≠ .possessive) :
    Matches (.many greed 0 none test :: nodes) before after ↔ ∃ run rest, after = run ++ rest ∧
      (∀ c ∈ run, test.admits c = true) ∧ Matches nodes (before ++ run) rest := by
  have hnode : Node.inOrder (.many greed 0 none test :: nodes) =
      (Node.many greed 0 none test).seq (.inOrder nodes) := rfl
  simp only [Matches, hnode, mem_ends_seq, mem_ends_many hgreed, Nat.zero_le, true_and]
  constructor
  · rintro ⟨s, _, ⟨n, hstretch, rfl⟩, hs⟩
    have hn : n ≤ after.length := by simpa using hstretch.length_le
    refine ⟨after.take n, after.drop n, (List.take_append_drop ..).symm,
      (stretch_iff_take hn).mp hstretch, s, ?_⟩
    rwa [List.append_assoc, List.take_append_drop, List.length_append, List.length_take_of_le hn]
  · rintro ⟨run, rest, rfl, hrun, s, hs⟩
    refine ⟨s, _, ⟨run.length, (stretch_iff_take (by simp)).mpr (by simpa using hrun), rfl⟩, ?_⟩
    rwa [← List.append_assoc, ← List.length_append]

theorem matches_spelled {word : List Char} :
    Matches (word.map (fun c => .one (.exactly c)) ++ nodes) before after ↔
      ∃ rest, after = word ++ rest ∧ Matches nodes (before ++ word) rest := by
  have hspelled : Text.slice (before ++ after) before.length (before.length + word.length) = word ↔
      word <+: after := by
    rw [Text.slice_eq_iff, List.drop_left]
  simp only [Matches, ends_spelled, hspelled]
  constructor
  · rintro ⟨s, hs⟩
    split at hs
    · rename_i hprefix
      obtain ⟨rest, rfl⟩ := hprefix
      exact ⟨rest, rfl, s, by simpa using hs⟩
    · cases hs
  · rintro ⟨rest, rfl, s, hs⟩
    rw [if_pos (List.prefix_append ..)]
    exact ⟨s, by simpa using hs⟩

theorem matches_lastLineEnd :
    Matches [.anchor .lastLineEnd] before after ↔ after = [] ∨ after = ['\n'] := by
  have hnode : Node.inOrder [.anchor .lastLineEnd] = (Node.anchor .lastLineEnd).seq .empty := rfl
  have hholds : Matches [.anchor .lastLineEnd] before after ↔
      Anchor.lastLineEnd.holds (before ++ after).toArray before.length = true := by
    simp [Matches, hnode]
  rw [hholds]
  match after with
  | [] => simp [Anchor.holds]
  | [c] => simp [Anchor.holds]
  | c :: d :: rest => simp [Anchor.holds]

end TestReach.Pattern
