import TestReach.Proofs.Split
import TestReach.Text.Blank
import TestReach.Text.Word

namespace TestReach.Text

variable {text name : List Char} {p n : Nat}

theorem slice_add (text : List Char) (p n : Nat) : slice text p (p + n) = (text.drop p).take n := by
  rw [slice, List.drop_take, Nat.add_sub_cancel_left]

@[simp] theorem slice_self (text : List Char) (p : Nat) : slice text p p = [] := by
  simpa using slice_add text p 0

theorem slice_succ {c : Char} (h : text[p]? = some c) (n : Nat) :
    slice text p (p + (n + 1)) = c :: slice text (p + 1) (p + 1 + n) := by
  obtain ⟨hp, rfl⟩ := List.getElem?_eq_some_iff.mp h
  rw [slice_add, slice_add, List.drop_eq_getElem_cons hp, List.take_succ_cons]

theorem slice_eq_iff : slice text p (p + name.length) = name ↔ name <+: text.drop p := by
  rw [slice_add, List.prefix_iff_eq_take, eq_comm]

theorem add_length_le_of_slice (h : slice text p (p + name.length) = name) (hne : name ≠ []) :
    p + name.length ≤ text.length := by
  have hlength := (slice_eq_iff.mp h).length_le
  have hpos := List.length_pos_iff.mpr hne
  rw [List.length_drop] at hlength
  omega

theorem getElem?_of_slice (h : slice text p (p + name.length) = name) {i : Nat}
    (hi : i < name.length) : text[p + i]? = name[i]? := by
  rw [slice_add] at h
  rw [← h, List.getElem?_take_of_lt hi, List.getElem?_drop]

theorem mem_occurrencesFrom {needle : List Char} {pos skip : Nat} {span : Span}
    (h : span ∈ occurrencesFrom needle pos skip text) :
    span.start ≤ span.stop ∧ span.stop ≤ pos + text.length := by
  induction text generalizing pos skip with
  | nil => cases h
  | cons c rest ih =>
    have hlater {skip : Nat} (h : span ∈ occurrencesFrom needle (pos + 1) skip rest) :
        span.start ≤ span.stop ∧ span.stop ≤ pos + (c :: rest).length := by
      have hbounds := ih h
      rw [List.length_cons]
      omega
    unfold occurrencesFrom at h
    cases skip with
    | succ skip => exact hlater h
    | zero =>
      dsimp only at h
      split at h
      · rename_i hprefix
        have hlength := (List.isPrefixOf_iff_prefix.mp hprefix).length_le
        rcases List.mem_cons.mp h with rfl | h
        · dsimp only
          omega
        · exact hlater h
      · exact hlater h

theorem lines_newline (text : List Char) : lines ('\n' :: text) = [] :: lines text := rfl

theorem lines_ne_nil (text : List Char) : lines text ≠ [] :=
  split_ne_nil _ text

/-- A character that ends no line stands at the head of the first one. -/
theorem exists_lines_cons {c : Char} (hc : c ≠ '\n') (text : List Char) :
    ∃ line rest, lines text = line :: rest ∧ lines (c :: text) = (c :: line) :: rest :=
  exists_split_cons (by simpa using hc) text

theorem length_lines (text : List Char) : (lines text).length = text.count '\n' + 1 := by
  induction text with
  | nil => rfl
  | cons c text ih =>
    by_cases hc : c = '\n'
    · rw [hc, lines_newline, List.length_cons, ih, List.count_cons_self]
    · obtain ⟨line, rest, hlines, hcons⟩ := exists_lines_cons hc text
      rw [hcons, List.length_cons, List.count_cons_of_ne hc, ← ih, hlines, List.length_cons]

/-- What follows a text changes its last line alone. -/
theorem getElem?_lines_append {more : List Char} {i : Nat} (h : i + 1 < (lines text).length) :
    (lines (text ++ more))[i]? = (lines text)[i]? := by
  induction text generalizing i with
  | nil =>
    have hone : (lines []).length = 1 := rfl
    omega
  | cons c text ih =>
    by_cases hc : c = '\n'
    · subst hc
      rw [List.cons_append, lines_newline, lines_newline]
      rw [lines_newline, List.length_cons] at h
      cases i with
      | zero => rfl
      | succ i => exact ih (by omega)
    · obtain ⟨line, rest, hlines, hcons⟩ := exists_lines_cons hc text
      obtain ⟨line', rest', hlines', hcons'⟩ := exists_lines_cons hc (text ++ more)
      rw [hcons, List.length_cons] at h
      rw [List.cons_append, hcons, hcons']
      have hsame := ih (i := i) (by rw [hlines, List.length_cons]; exact h)
      rw [hlines, hlines'] at hsame
      cases i with
      | zero => simpa using hsame
      | succ i => simpa using hsame

/-- `line` is a whole line of `text`, which stands between `before` and `after`. -/
structure LineBetween (text before line after : List Char) : Prop where
  eq_append : text = before ++ line ++ after
  whole : '\n' ∉ line
  opened : before = [] ∨ before.getLast? = some '\n'
  closed : after = [] ∨ after.head? = some '\n'

namespace LineBetween

variable {before row after : List Char}

theorem getElem?_add (h : LineBetween text before row after) {i : Nat} (hi : i < row.length) :
    text[before.length + i]? = row[i]? := by
  rw [h.eq_append, List.append_assoc, List.getElem?_append_right (Nat.le_add_right _ _),
    Nat.add_sub_cancel_left, List.getElem?_append_left hi]

theorem slice_add (h : LineBetween text before row after) (hfits : p + n ≤ row.length) :
    slice text (before.length + p) (before.length + p + n) = slice row p (p + n) := by
  rw [Text.slice_add, Text.slice_add, h.eq_append, List.append_assoc, List.drop_append,
    List.drop_eq_nil_of_le (Nat.le_add_right _ _), List.nil_append, Nat.add_sub_cancel_left,
    List.drop_append_of_le_length (by omega),
    List.take_append_of_le_length (by rw [List.length_drop]; omega)]

theorem eq_newline_of_before (h : LineBetween text before row after) (hbefore : before ≠ [])
    {c : Char} (hc : text[before.length - 1]? = some c) : c = '\n' := by
  have hlast := h.opened.resolve_left hbefore
  have hpos := List.length_pos_iff.mpr hbefore
  rw [h.eq_append, List.append_assoc, List.getElem?_append_left (by omega),
    ← List.getLast?_eq_getElem?, hlast] at hc
  exact (Option.some.inj hc).symm

theorem eq_newline_of_after (h : LineBetween text before row after) {c : Char}
    (hc : text[before.length + row.length]? = some c) : c = '\n' := by
  rw [h.eq_append, ← List.length_append, List.getElem?_append_right (Nat.le_refl _), Nat.sub_self,
    ← List.head?_eq_getElem?] at hc
  rcases h.closed with hend | hhead
  · rw [hend] at hc
    cases hc
  · rw [hhead] at hc
    exact (Option.some.inj hc).symm

end LineBetween

theorem exists_lineBetween {line : List Char} {i : Nat} (h : (lines text)[i]? = some line) :
    ∃ before after, LineBetween text before line after ∧ before.count '\n' = i := by
  induction text generalizing line i with
  | nil =>
    have hlines : lines [] = [[]] := rfl
    obtain ⟨rfl, rfl⟩ : i = 0 ∧ line = [] := by
      cases i <;> simp_all
    exact ⟨[], [], ⟨rfl, List.not_mem_nil, Or.inl rfl, Or.inl rfl⟩, rfl⟩
  | cons c text ih =>
    by_cases hc : c = '\n'
    · subst hc
      rw [lines_newline] at h
      cases i with
      | zero =>
        obtain rfl : [] = line := by simpa using h
        exact ⟨[], '\n' :: text, ⟨rfl, List.not_mem_nil, Or.inl rfl, Or.inr rfl⟩, rfl⟩
      | succ i =>
        obtain ⟨before, after, ⟨heq, hwhole, hopened, hclosed⟩, hcount⟩ := ih (by simpa using h)
        refine ⟨'\n' :: before, after, ⟨by rw [heq]; rfl, hwhole, Or.inr ?_, hclosed⟩, ?_⟩
        · rcases hopened with rfl | hopened
          · rfl
          · simp [List.getLast?_cons, hopened]
        · rw [List.count_cons_self, hcount]
    · obtain ⟨head, rest, hlines, hcons⟩ := exists_lines_cons hc text
      rw [hcons] at h
      cases i with
      | zero =>
        obtain rfl : c :: head = line := by simpa using h
        have hhead : (lines text)[0]? = some head := by rw [hlines, List.getElem?_cons_zero]
        obtain ⟨before, after, ⟨heq, hwhole, hopened, hclosed⟩, hcount⟩ := ih hhead
        -- The first line has nothing before it, or a line feed would be counted there.
        obtain rfl : before = [] := by
          refine hopened.resolve_right fun hlast => ?_
          exact List.count_eq_zero.mp hcount (List.mem_of_getLast? hlast)
        refine ⟨[], after, ⟨by rw [heq]; rfl, ?_, Or.inl rfl, hclosed⟩, rfl⟩
        rw [List.mem_cons, not_or]
        exact ⟨Ne.symm hc, hwhole⟩
      | succ i =>
        have hline : (lines text)[i + 1]? = some line := by simpa [hlines] using h
        obtain ⟨before, after, ⟨heq, hwhole, hopened, hclosed⟩, hcount⟩ := ih hline
        have hne : before ≠ [] := by
          rintro rfl
          cases hcount
        refine ⟨c :: before, after, ⟨by rw [heq]; rfl, hwhole, Or.inr ?_, hclosed⟩, ?_⟩
        · simp [List.getLast?_cons, hopened.resolve_left hne]
        · rw [List.count_cons_of_ne hc, hcount]

theorem exists_lastLine (text : List Char) : ∃ before line, LineBetween text before line [] := by
  obtain ⟨line, hline⟩ := Option.ne_none_iff_exists'.mp
    (mt List.getLast?_eq_none_iff.mp (lines_ne_nil text))
  have hindex : (lines text)[(lines text).length - 1]? = some line := by
    rw [← List.getLast?_eq_getElem?, hline]
  obtain ⟨before, after, hbetween, hcount⟩ := exists_lineBetween hindex
  have hnone : '\n' ∉ after := by
    have hall := congrArg (List.count '\n') hbetween.eq_append
    rw [length_lines, Nat.add_sub_cancel] at hcount
    rw [List.count_append, List.count_append, ← hcount] at hall
    exact List.count_eq_zero.mp (by omega)
  obtain rfl : after = [] := hbetween.closed.resolve_right fun hhead =>
    hnone (List.mem_of_head? hhead)
  exact ⟨before, line, hbetween⟩

theorem exists_firstLine (text : List Char) : ∃ line after, LineBetween text [] line after := by
  obtain ⟨line, rest, hlines⟩ := List.exists_cons_of_ne_nil (lines_ne_nil text)
  have hindex : (lines text)[0]? = some line := by rw [hlines, List.getElem?_cons_zero]
  obtain ⟨before, after, hbetween, hcount⟩ := exists_lineBetween hindex
  obtain rfl : before = [] := hbetween.opened.resolve_right fun hlast =>
    List.count_eq_zero.mp hcount (List.mem_of_getLast? hlast)
  exact ⟨line, after, hbetween⟩

theorem Ranges.exists_of_has {ranges : Ranges} {n : Nat} (h : ranges.has n = true) :
    ∃ range ∈ ranges, range.1 ≤ n ∧ n ≤ range.2 := by
  induction ranges with
  | nil => cases h
  | cons range rest ih =>
    obtain ⟨first, last⟩ := range
    unfold Ranges.has at h
    split at h
    · cases h
    · split at h
      · exact ⟨_, List.mem_cons_self, by omega, by omega⟩
      · obtain ⟨range, hmem, hbounds⟩ := ih h
        exact ⟨range, List.mem_cons_of_mem _ hmem, hbounds⟩

theorem isAsciiDigit_iff {c : Char} : isAsciiDigit c = true ↔ 48 ≤ c.toNat ∧ c.toNat ≤ 57 := by
  simp only [isAsciiDigit, Bool.and_eq_true, decide_eq_true_eq, Char.le_def, UInt32.le_iff_toNat_le]
  rfl

theorem isWord_of_isAsciiDigit {c : Char} (h : isAsciiDigit c = true) : isWord c = true := by
  have hsmall : c.toNat < 128 := by have := isAsciiDigit_iff.mp h; omega
  simp [isWord, hsmall, isAsciiWord, h]

theorem not_isWord_of_isBlank {c : Char} (h : isBlank c = true) : isWord c = false := by
  obtain ⟨range, hrange, hfirst, hlast⟩ := Ranges.exists_of_has h
  have hall : ∀ range ∈ blankRanges, ∀ n ∈ List.range' range.1 (range.2 + 1 - range.1),
      isWord (Char.ofNat n) = false := by decide +kernel
  rw [← Char.ofNat_toNat c]
  exact hall range hrange _ (List.mem_range'_1.mpr ⟨hfirst, by omega⟩)

/-- A text with no white space at its ends is not trimmed. -/
theorem strip_of_ends (hhead : ∀ c ∈ text.head?, isBlank c = false)
    (hlast : ∀ c ∈ text.getLast?, isBlank c = false) : strip text = text := by
  have hstay {text : List Char} (h : ∀ c ∈ text.head?, isBlank c = false) :
      text.dropWhile isBlank = text := by
    cases text with
    | nil => rfl
    | cons c rest => rw [List.dropWhile_cons_of_neg (by simp [h c rfl])]
  rw [strip, hstay hhead, hstay (by rwa [List.head?_reverse]), List.reverse_reverse]

end TestReach.Text
