import TestReach.Proofs.Declaration
import TestReach.Proofs.Location
import TestReach.Proofs.Term
import TestReach.Scan

namespace TestReach

open Text

/-- The routine around a use is taken from line `n` of `source`, counted from zero, above the use. -/
structure Match.RoutineAt (m : Match) (rules : DeclarationRules) (source : String) (n : Nat) :
    Prop where
  above : n + 1 < m.line
  declares : ∃ line, (lines source.toList)[n]? = some line ∧ rules.nameOnLine line = m.routine
  /-- No line between it and the use declares a name. -/
  nearest : ∀ i, n < i → i + 1 < m.line →
    ∀ line ∈ (lines source.toList)[i]?, rules.nameOnLine line = ""

/-- Of the lines of a text above line `limit`, counted from zero, line `n` is the nearest that
declares a routine, which it names `name`. -/
structure DeclarationRules.NearestAbove (rules : DeclarationRules) (text : List Char) (limit n : Nat)
    (name : String) : Prop where
  above : n < limit
  declares : ∃ line, (lines text)[n]? = some line ∧ rules.declaredName (String.ofList line) = name
  named : name ≠ ""
  nearest : ∀ i, n < i → i < limit →
    ∀ line ∈ (lines text)[i]?, rules.declaredName (String.ofList line) = ""

namespace Scanner

variable {scanner : Scanner} {path source : String} {span : Span}

theorem routine_of_hit (h : (scanner.hit path source span).routine ≠ "") :
    scanner.declarations.declaredName (Location.ofSpan span source).text = "" ∧
      (scanner.hit path source span).routine =
        scanner.declarations.nearestName (source.toList.take span.start) := by
  simp only [hit] at h ⊢
  split at h
  · exact absurd rfl h
  · rename_i hdeclaration
    rw [if_neg hdeclaration]
    refine ⟨by simpa [DeclarationRules.isDeclaration] using hdeclaration, ?_⟩
    exact DeclarationRules.nearestName_of_enclosing h

theorem line_of_hit : (scanner.hit path source span).line =
    (lines (source.toList.take span.start)).length := by
  rw [length_lines]
  simp only [hit, Location.ofSpan, Location.ofBounds, Location.position_natCast]

/-- The lines of what stands before a place are those of the text, but for the last of them. -/
theorem getElem?_lines_take (text : List Char) (stop : Nat) {i : Nat}
    (hi : i + 1 < (lines (text.take stop)).length) :
    (lines text)[i]? = (lines (text.take stop))[i]? := by
  rw [← getElem?_lines_append hi, List.take_append_drop]

theorem declaredName_before_use (hrules : scanner.declarations.IsDefault) (hle : span.start ≤ span.stop)
    (hstop : span.stop ≤ source.toList.length)
    (huse : (scanner.hit path source span).isDeclaration = false) {part : List Char}
    (hpart : (lines (source.toList.take span.start)).getLast? = some part) :
    scanner.declarations.declaredName (String.ofList part) = "" := by
  obtain ⟨part', more, hpart', htext⟩ := Location.exists_ofSpan_text hle hstop
  rw [hpart] at hpart'
  obtain rfl := Option.some.inj hpart'
  rw [hit, htext] at huse
  by_contra hname
  rw [← hrules.nameOnLine_eq] at hname
  exact hrules.declaredName_append_ne_empty hname more (by
    simpa [DeclarationRules.isDeclaration] using huse)

theorem exists_nearestAbove (hrules : scanner.declarations.IsDefault) (hle : span.start ≤ span.stop)
    (hstop : span.stop ≤ source.toList.length)
    (huse : (scanner.hit path source span).isDeclaration = false)
    (hname : scanner.declarations.nearestName (source.toList.take span.start) ≠ "") :
    ∃ n, scanner.declarations.NearestAbove source.toList
      ((scanner.hit path source span).line - 1) n
      (scanner.declarations.nearestName (source.toList.take span.start)) := by
  obtain ⟨n, ⟨line, hline, hdeclares⟩, hnearest⟩ := scanner.declarations.exists_nearestAt hname
  have hlength := (List.getElem?_eq_some_iff.mp hline).1
  have habove : n + 1 < (lines (source.toList.take span.start)).length := by
    by_contra hlast
    have hpart : (lines (source.toList.take span.start)).getLast? = some line := by
      rw [List.getLast?_eq_getElem?,
        show (lines (source.toList.take span.start)).length - 1 = n by omega, hline]
    rw [← hdeclares, hrules.nameOnLine_eq] at hname
    exact hname (declaredName_before_use hrules hle hstop huse hpart)
  rw [line_of_hit]
  refine ⟨n, by omega, ⟨line, ?_, ?_⟩, hname, ?_⟩
  · rw [getElem?_lines_take _ _ habove, hline]
  · rw [← hrules.nameOnLine_eq, hdeclares]
  · intro i hi hi' later hlater
    rw [getElem?_lines_take source.toList span.start (by omega)] at hlater
    rw [← hrules.nameOnLine_eq]
    exact hnearest i hi later hlater

/-- The name of the routine around a use stands on a line above the use: on the use's own line it
would make the use a declaration. -/
theorem exists_routineAt (hrules : scanner.declarations.IsDefault) (hle : span.start ≤ span.stop)
    (hstop : span.stop ≤ source.toList.length) (h : (scanner.hit path source span).routine ≠ "") :
    ∃ n, (scanner.hit path source span).RoutineAt scanner.declarations source n := by
  obtain ⟨hname, hroutine⟩ := routine_of_hit h
  have huse : (scanner.hit path source span).isDeclaration = false := by
    simp [hit, DeclarationRules.isDeclaration, hname]
  rw [hroutine] at h
  obtain ⟨n, habove, ⟨line, hline, hdeclares⟩, -, hnearest⟩ :=
    exists_nearestAbove hrules hle hstop huse h
  refine ⟨n, by omega, ⟨line, hline, ?_⟩, fun i hi hi' later hlater => ?_⟩
  · rw [hrules.nameOnLine_eq, hdeclares, hroutine]
  · rw [hrules.nameOnLine_eq]
    exact hnearest i hi (by omega) later hlater

/-- The whole-word term of a name finds it on each line that declares it, and what it finds there is
a declaration. -/
theorem exists_declaration_on_line (hrules : scanner.declarations.IsDefault) {n : Nat}
    {line : List Char} (hline : (lines source.toList)[n]? = some line)
    (hname : scanner.declarations.nameOnLine line ≠ "") (path : String) :
    ∃ term, Term.wholeWord? (scanner.declarations.nameOnLine line) = .ok term ∧
      ∃ span ∈ term.findAll source, (scanner.hit path source span).isDeclaration = true ∧
        (scanner.hit path source span).line = n + 1 ∧
        (scanner.hit path source span).matched = scanner.declarations.nameOnLine line := by
  rw [hrules.nameOnLine_eq] at hname ⊢
  obtain ⟨p, first, stop, paren, hat, heq⟩ := hrules.exists_declaredAt hname
  rw [String.toList_ofList] at hat heq
  have hne : slice line first stop ≠ [] := hat.name_ne_nil
  have hword : WordAt (slice line first stop) line first := hat.wordAt
  obtain ⟨before, after, hbetween, hcount⟩ := exists_lineBetween hline
  have hfits := hword.add_length_le hne
  obtain ⟨term, hterm, hfind⟩ := Term.findAll_wholeWord hname (by
    rw [heq, String.toList_ofList]
    exact fun c hc => hat.isWord_of_mem_name hc)
  -- The name stands inside one line, so the place of its match is on that line alone.
  have hplace : Location.ofSpan
      ⟨before.length + first, before.length + first + (slice line first stop).length⟩ source =
        { line := n + 1
          column := first
          columnEnd := (first + (slice line first stop).length : Nat)
          text := String.ofList line } := by
    rw [Location.ofSpan_of_lineBetween hbetween (Nat.le_add_right _ _) (Nat.le_add_right _ _)
      (by dsimp only; omega), hcount]
    simp only [Location.mk.injEq, true_and, and_true]
    omega
  refine ⟨term, hterm,
    ⟨before.length + first, before.length + first + (slice line first stop).length⟩, ?_, ?_, ?_, ?_⟩
  · have hin := (hword.of_line hne hbetween).add_length_le hne
    have hpos := List.length_pos_iff.mpr hne
    rw [hfind, heq, String.toList_ofList]
    refine List.mem_map.mpr ⟨before.length + first, List.mem_filter.mpr ⟨?_, ?_⟩, rfl⟩
    · exact List.mem_range.mpr (by omega)
    · exact decide_eq_true (hword.of_line hne hbetween)
  · simp only [hit, hplace, DeclarationRules.isDeclaration]
    exact bne_iff_ne.mpr hname
  · simp only [hit, hplace]
  · simp only [hit, hplace, Match.matched, between, String.toList_ofList, Location.position_natCast]
    rw [hat.add_length_name, heq]

end Scanner
end TestReach
