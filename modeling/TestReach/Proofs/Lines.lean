import TestReach.Proofs.Text

namespace TestReach.Text

variable {text before block after line : List Char} {i p : Nat}

theorem lines_append_newline (a b : List Char) : lines (a ++ '\n' :: b) = lines a ++ lines b :=
  split_append_separator rfl a b

theorem lines_of_whole (h : '\n' ∉ line) : lines line = [line] :=
  split_of_whole fun _ hc => beq_eq_false_iff_ne.mpr fun hnewline => h (hnewline ▸ hc)

theorem intercalate_lines (text : List Char) : ['\n'].intercalate (lines text) = text := by
  induction text with
  | nil => rfl
  | cons c text ih =>
    by_cases hc : c = '\n'
    · obtain ⟨line, rest, hlines⟩ := List.exists_cons_of_ne_nil (lines_ne_nil text)
      rw [hlines] at ih
      rw [hc, lines_newline, hlines, List.intercalate_cons_cons, ih]
      rfl
    · obtain ⟨line, rest, hlines, hcons⟩ := exists_lines_cons hc text
      rw [hlines] at ih
      rw [hcons]
      cases rest with
      | nil => simpa using ih
      | cons next rest =>
        rw [List.intercalate_cons_cons] at ih ⊢
        rw [List.cons_append, List.cons_append, ih]

def linesLength : List (List Char) → Nat
  | [] => 0
  | line :: rest => line.length + 1 + linesLength rest

theorem linesLength_lines (text : List Char) : linesLength (lines text) = text.length + 1 := by
  induction text with
  | nil => rfl
  | cons c text ih =>
    by_cases hc : c = '\n'
    · rw [hc, lines_newline, linesLength, ih, List.length_nil, List.length_cons]
      omega
    · obtain ⟨line, rest, hlines, hcons⟩ := exists_lines_cons hc text
      rw [hlines, linesLength] at ih
      rw [hcons, linesLength, List.length_cons, List.length_cons]
      omega

/-- `block` is one or more whole lines of `text`, which stand between `before` and `after`. -/
structure LinesBetween (text before block after : List Char) : Prop where
  eq_append : text = before ++ block ++ after
  opened : before = [] ∨ before.getLast? = some '\n'
  closed : after = [] ∨ after.head? = some '\n'

theorem LineBetween.linesBetween (h : LineBetween text before line after) :
    LinesBetween text before line after :=
  ⟨h.eq_append, h.opened, h.closed⟩

namespace LinesBetween

/-- The lines of a block stand among those of the text; those above it take up all that is before it. -/
theorem exists_lines_eq (h : LinesBetween text before block after) :
    ∃ above below, lines text = above ++ (lines block ++ below) ∧
      above.length = before.count '\n' ∧ linesLength above = before.length := by
  have hbelow : ∃ below, lines (block ++ after) = lines block ++ below := by
    rcases h.closed with rfl | hhead
    · exact ⟨[], by simp⟩
    · obtain ⟨rest, rfl⟩ := List.head?_eq_some_iff.mp hhead
      exact ⟨lines rest, lines_append_newline block rest⟩
  obtain ⟨below, hbelow⟩ := hbelow
  rw [h.eq_append, List.append_assoc]
  rcases h.opened with rfl | hlast
  · exact ⟨[], below, hbelow, rfl, rfl⟩
  · obtain ⟨above, rfl⟩ := List.getLast?_eq_some_iff.mp hlast
    refine ⟨lines above, below, ?_, ?_, ?_⟩
    · rw [List.append_assoc, List.singleton_append, lines_append_newline, hbelow]
    · rw [length_lines, List.count_append, List.count_singleton_self]
    · rw [linesLength_lines, List.length_append, List.length_singleton]

theorem lines_slice (h : LinesBetween text before block after) :
    ((lines text).drop (before.count '\n')).take (block.count '\n' + 1) = lines block := by
  obtain ⟨above, below, hlines, hcount, -⟩ := h.exists_lines_eq
  rw [hlines, ← hcount, List.drop_left, ← length_lines, List.take_left]

theorem getElem?_lines (h : LinesBetween text before block after) {k : Nat}
    (hk : k ≤ block.count '\n') :
    (lines text)[before.count '\n' + k]? = (lines block)[k]? := by
  obtain ⟨above, below, hlines, hcount, -⟩ := h.exists_lines_eq
  rw [hlines, ← hcount, List.getElem?_append_right (Nat.le_add_right _ _), Nat.add_sub_cancel_left,
    List.getElem?_append_left (by rw [length_lines]; omega)]

theorem length_before (h : LinesBetween text before block after) :
    linesLength ((lines text).take (before.count '\n')) = before.length := by
  obtain ⟨above, below, hlines, hcount, hlength⟩ := h.exists_lines_eq
  rw [hlines, ← hcount, List.take_left, hlength]

theorem count_lt_length_lines (h : LinesBetween text before block after) :
    before.count '\n' < (lines text).length := by
  rw [length_lines, h.eq_append, List.count_append, List.count_append]
  omega

end LinesBetween

theorem LineBetween.getElem?_lines (h : LineBetween text before line after) :
    (lines text)[before.count '\n']? = some line := by
  have hline := h.linesBetween.getElem?_lines (Nat.zero_le _)
  rwa [lines_of_whole h.whole] at hline

theorem LineBetween.getLast?_lines (h : LineBetween text before line []) :
    (lines text).getLast? = some line := by
  obtain ⟨above, below, hlines, hcount, -⟩ := h.linesBetween.exists_lines_eq
  have hbelow : below = [] := by
    have hlength := length_lines text
    rw [hlines, lines_of_whole h.whole, h.eq_append, List.length_append, List.length_append, hcount,
      List.count_append, List.count_append, List.count_eq_zero.mpr h.whole, List.length_singleton,
      List.count_nil] at hlength
    exact List.length_eq_zero_iff.mp (by omega)
  rw [hlines, hbelow, lines_of_whole h.whole, List.append_nil, List.getLast?_concat]

end TestReach.Text
