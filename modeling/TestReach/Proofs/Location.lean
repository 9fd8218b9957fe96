import TestReach.Location
import TestReach.Proofs.Lines

namespace TestReach.Location

open Text

variable {text before line after : List Char} {start stop : Nat}

theorem takeWhile_reverse {part : List Char} (hpart : '\n' ∉ part)
    (hopened : before = [] ∨ before.getLast? = some '\n') :
    (before ++ part).reverse.takeWhile (· != '\n') = part.reverse := by
  have hall : ∀ c ∈ part.reverse, (c != '\n') = true := by
    intro c hc
    simp only [bne_iff_ne]
    rintro rfl
    exact hpart (List.mem_reverse.mp hc)
  rw [List.reverse_append, List.takeWhile_append_of_pos hall]
  rcases hopened with rfl | hlast
  · simp
  · obtain ⟨rest, rfl⟩ := List.getLast?_eq_some_iff.mp hlast
    simp

theorem lineStart_eq {part : List Char} (htake : text.take start = before ++ part)
    (hpart : '\n' ∉ part) (hopened : before = [] ∨ before.getLast? = some '\n') :
    lineStart text start = before.length := by
  rw [lineStart, htake, takeWhile_reverse hpart hopened]
  simp

theorem findFrom?_newline {pos : Nat} (hline : '\n' ∉ line) :
    findFrom? ['\n'] pos (line ++ '\n' :: after) = some (pos + line.length) := by
  induction line generalizing pos with
  | nil => simp [findFrom?]
  | cons c line ih =>
    rw [List.mem_cons, not_or] at hline
    have hc : ['\n'].isPrefixOf (c :: (line ++ '\n' :: after)) = false := by
      simp [List.isPrefixOf, hline.1]
    rw [List.cons_append, findFrom?, hc, if_neg Bool.false_ne_true, ih hline.2, List.length_cons,
      Nat.add_assoc, Nat.add_comm 1]

theorem findFrom?_newline_eq_none {pos : Nat} (hline : '\n' ∉ line) :
    findFrom? ['\n'] pos line = none := by
  induction line generalizing pos with
  | nil => simp [findFrom?]
  | cons c line ih =>
    rw [List.mem_cons, not_or] at hline
    have hc : ['\n'].isPrefixOf (c :: line) = false := by simp [List.isPrefixOf, hline.1]
    rw [findFrom?, hc, if_neg Bool.false_ne_true, ih hline.2]

theorem lineEnd_of_drop {rest : List Char} (hdrop : text.drop stop = rest ++ after) (hrest : '\n' ∉ rest)
    (hclosed : after = [] ∨ after.head? = some '\n') (hstop : stop ≤ text.length) :
    lineEnd text stop = stop + rest.length := by
  rw [lineEnd, hdrop]
  rcases hclosed with rfl | hhead
  · have hlength := congrArg List.length hdrop
    rw [List.length_drop, List.append_nil] at hlength
    rw [List.append_nil, findFrom?_newline_eq_none hrest]
    dsimp only
    omega
  · obtain ⟨more, rfl⟩ := List.head?_eq_some_iff.mp hhead
    rw [findFrom?_newline hrest]

theorem position_natCast (length n : Nat) : position length (n : Int) = n := by
  have hnonneg : ¬ (n : Int) < 0 := by omega
  simp [position, hnonneg]

/-- A span holds `middle`; on the lines that it reaches `part` stands before it and `rest` after it. -/
structure SpanBetween (text before part middle rest after : List Char) : Prop where
  lines : LinesBetween text before (part ++ middle ++ rest) after
  part : '\n' ∉ part
  rest : '\n' ∉ rest

theorem exists_spanBetween (hle : start ≤ stop) (hstop : stop ≤ text.length) :
    ∃ before part rest after, SpanBetween text before part (slice text start stop) rest after ∧
      before.length + part.length = start := by
  obtain ⟨before, part, hpart⟩ := exists_lastLine (text.take start)
  obtain ⟨rest, after, hrest⟩ := exists_firstLine (text.drop stop)
  have htake : text.take start = before ++ part := by rw [hpart.eq_append, List.append_nil]
  have hslice : slice text start stop = (text.drop start).take (stop - start) := by
    rw [slice, List.drop_take]
  refine ⟨before, part, rest, after, ⟨⟨?_, hpart.opened, hrest.closed⟩, hpart.whole, hrest.whole⟩, ?_⟩
  · have hdrop : (text.drop start).drop (stop - start) = rest ++ after := by
      rw [List.drop_drop, Nat.add_sub_cancel' hle, hrest.eq_append, List.nil_append]
    calc text = text.take start ++ text.drop start := (List.take_append_drop _ _).symm
      _ = before ++ part ++ (slice text start stop ++ (rest ++ after)) := by
        rw [htake, hslice, ← hdrop, List.take_append_drop]
      _ = before ++ (part ++ slice text start stop ++ rest) ++ after := by
        simp only [List.append_assoc]
  · have hlength := congrArg List.length htake
    rw [List.length_take, List.length_append] at hlength
    omega

namespace SpanBetween

variable {part middle rest : List Char} {source : String}

theorem eq_append (h : SpanBetween text before part middle rest after) :
    text = before ++ part ++ (middle ++ (rest ++ after)) := by
  rw [h.lines.eq_append]
  simp only [List.append_assoc]

theorem take_start (h : SpanBetween text before part middle rest after) :
    text.take (before.length + part.length) = before ++ part := by
  rw [h.eq_append, ← List.length_append, List.take_left]

theorem ofSpan (h : SpanBetween source.toList before part middle rest after) :
    Location.ofSpan ⟨before.length + part.length, before.length + part.length + middle.length⟩ source = {
      line := before.count '\n' + 1
      column := part.length
      columnEnd := (part.length + middle.length : Nat)
      text := String.ofList (part ++ middle ++ rest) } := by
  have hdrop : source.toList.drop (before.length + part.length + middle.length) = rest ++ after := by
    rw [h.eq_append, ← List.append_assoc, ← List.length_append, ← List.length_append, List.drop_left]
  have hbounds := congrArg List.length h.eq_append
  simp only [List.length_append] at hbounds
  have hend := lineEnd_of_drop hdrop h.rest h.lines.closed (by omega)
  have hslice : slice source.toList before.length
      (before.length + part.length + middle.length + rest.length) = part ++ middle ++ rest := by
    rw [show before.length + part.length + middle.length + rest.length =
      before.length + (part ++ middle ++ rest).length by simp [Nat.add_assoc], slice_add,
      h.lines.eq_append, List.append_assoc before, List.drop_left, List.take_left]
  rw [Location.ofSpan, ofBounds]
  simp only [position_natCast, lineStart_eq h.take_start h.part h.lines.opened, hend, hslice,
    h.take_start, List.count_append, List.count_eq_zero.mpr h.part, Nat.add_zero, Location.mk.injEq,
    true_and, and_true]
  omega

end SpanBetween

theorem ofSpan_of_lineBetween {source : String} (h : LineBetween source.toList before line after)
    {span : Span} (hstart : before.length ≤ span.start) (hle : span.start ≤ span.stop)
    (hstop : span.stop ≤ before.length + line.length) :
    ofSpan span source = {
      line := before.count '\n' + 1
      column := span.start - before.length
      columnEnd := span.stop - before.length
      text := String.ofList line } := by
  obtain ⟨first, hfirst⟩ := Nat.exists_eq_add_of_le hstart
  obtain ⟨width, hwidth⟩ := Nat.exists_eq_add_of_le hle
  have hline : line.take first ++ (line.drop first).take width ++ (line.drop first).drop width = line := by
    rw [List.append_assoc, List.take_append_drop, List.take_append_drop]
  have hspan : SpanBetween source.toList before (line.take first) ((line.drop first).take width)
      ((line.drop first).drop width) after := by
    refine ⟨by rw [hline]; exact h.linesBetween, ?_, ?_⟩
    · exact fun hmem => h.whole (List.mem_of_mem_take hmem)
    · exact fun hmem => h.whole (List.mem_of_mem_drop (List.mem_of_mem_drop hmem))
  have hplace := hspan.ofSpan
  rw [hline, List.length_take, List.length_take, List.length_drop, Nat.min_eq_left (by omega),
    Nat.min_eq_left (by omega), ← hfirst, ← hwidth] at hplace
  rw [hplace]
  simp only [Location.mk.injEq, true_and, and_true]
  omega

variable {source : String} {span : Span}

theorem length_slice (hstop : stop ≤ text.length) : (slice text start stop).length = stop - start := by
  rw [slice, List.length_drop, List.length_take, Nat.min_eq_left hstop]

theorem exists_ofSpan (hle : span.start ≤ span.stop) (hstop : span.stop ≤ source.toList.length) :
    ∃ before part rest after,
      SpanBetween source.toList before part (slice source.toList span.start span.stop) rest after ∧
      before.length + part.length = span.start ∧
      ofSpan span source = {
        line := before.count '\n' + 1
        column := part.length
        columnEnd := (part.length + (slice source.toList span.start span.stop).length : Nat)
        text := String.ofList (part ++ slice source.toList span.start span.stop ++ rest) } := by
  obtain ⟨before, part, rest, after, hspan, hstart⟩ := exists_spanBetween hle hstop
  have hend : span.start + (slice source.toList span.start span.stop).length = span.stop := by
    rw [length_slice hstop, Nat.add_sub_cancel' hle]
  have hplace := hspan.ofSpan
  rw [hstart, hend] at hplace
  exact ⟨before, part, rest, after, hspan, hstart, hplace⟩

theorem exists_ofSpan_text (hle : span.start ≤ span.stop) (hstop : span.stop ≤ source.toList.length) :
    ∃ part more, (lines (source.toList.take span.start)).getLast? = some part ∧
      (ofSpan span source).text = String.ofList (part ++ more) := by
  obtain ⟨before, part, rest, after, hspan, hstart, hplace⟩ := exists_ofSpan hle hstop
  refine ⟨part, slice source.toList span.start span.stop ++ rest, ?_, ?_⟩
  · apply LineBetween.getLast?_lines
    exact ⟨by rw [← hstart, hspan.take_start, List.append_nil], hspan.part, hspan.lines.opened,
      Or.inl rfl⟩
  · rw [hplace, List.append_assoc]

end TestReach.Location
