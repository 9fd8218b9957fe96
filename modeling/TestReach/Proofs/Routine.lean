import TestReach.Proofs.Enclosing
import TestReach.Proofs.Offset

namespace TestReach

open Text

structure Match.InRoutine (rules : DeclarationRules) (source : String) (span : Span) (m : Match) :
    Prop where
  /-- The line of a match is the one on which it starts. -/
  line_eq : m.line = (source.toList.take span.start).count '\n' + 1
  /-- The nearest declaration line above names the routine, unless the name is ignored. -/
  named : ∀ n name, rules.NearestAbove source.toList (m.line - 1) n name →
    m.routine = if rules.isIgnored name then "" else name
  /-- Without a declaration line above there is no routine. -/
  unnamed : (∀ i, i + 1 < m.line → ∀ line ∈ (lines source.toList)[i]?,
    rules.declaredName (String.ofList line) = "") → m.routine = ""
  /-- The part of the line in front of the match names nothing. -/
  cut : ∀ part, (lines (source.toList.take span.start)).getLast? = some part →
    rules.declaredName (String.ofList part) = ""

theorem DeclarationRules.NearestAbove.unique {rules : DeclarationRules} {text : List Char}
    {limit n n' : Nat} {name name' : String} (h : rules.NearestAbove text limit n name)
    (h' : rules.NearestAbove text limit n' name') : name = name' := by
  obtain ⟨habove, ⟨line, hline, hdeclares⟩, hnamed, hnearest⟩ := h
  obtain ⟨habove', ⟨line', hline', hdeclares'⟩, hnamed', hnearest'⟩ := h'
  rcases Nat.lt_trichotomy n n' with hlt | rfl | hlt
  · exact absurd (hdeclares'.symm.trans (hnearest n' hlt habove' line' hline')) hnamed'
  · rw [hline] at hline'
    rw [← hdeclares, ← hdeclares', Option.some.inj hline']
  · exact absurd (hdeclares.symm.trans (hnearest' n hlt habove line hline)) hnamed

namespace Scanner

variable {scanner : Scanner} {disk : Disk} {file : Path} {path source : String} {term : Term}
  {span : Span} {result : FileResult}

theorem inRoutine_hit (hrules : scanner.declarations.IsDefault) (hle : span.start ≤ span.stop)
    (hstop : span.stop ≤ source.toList.length)
    (huse : (scanner.hit path source span).isDeclaration = false) :
    (scanner.hit path source span).InRoutine scanner.declarations source span := by
  have hline : (scanner.hit path source span).line =
      (source.toList.take span.start).count '\n' + 1 := by rw [line_of_hit, length_lines]
  have hroutine : (scanner.hit path source span).routine =
      scanner.declarations.enclosing (source.toList.take span.start) := by
    unfold hit at huse ⊢
    exact if_neg (Bool.eq_false_iff.mp huse)
  have hcut {part : List Char} (hpart : (lines (source.toList.take span.start)).getLast? = some part) :
      scanner.declarations.declaredName (String.ofList part) = "" :=
    declaredName_before_use hrules hle hstop huse hpart
  -- Without a name the lines above declare none; otherwise the line that gave it is the nearest.
  by_cases hnearest : scanner.declarations.nearestName (source.toList.take span.start) = ""
  · have hempty : (scanner.hit path source span).routine = "" := by
      rw [hroutine, DeclarationRules.enclosing, hnearest]
      exact ite_self _
    refine ⟨hline, fun n name hname => ?_, fun _ => hempty, fun _ => hcut⟩
    obtain ⟨habove, ⟨line, hat, hdeclares⟩, hnamed, -⟩ := hname
    rw [hline, ← length_lines] at habove
    rw [getElem?_lines_take source.toList span.start (by omega)] at hat
    rw [← hdeclares, ← hrules.nameOnLine_eq] at hnamed
    exact absurd (scanner.declarations.nameOnLine_eq_empty hnearest (List.mem_of_getElem? hat)) hnamed
  · obtain ⟨n, hat⟩ := exists_nearestAbove hrules hle hstop huse hnearest
    refine ⟨hline, fun n' name hname => ?_, fun hnone => ?_, fun _ => hcut⟩
    · rw [hroutine, hname.unique hat]
      rfl
    · obtain ⟨line, hrow, hdeclares⟩ := hat.declares
      have habove := hat.above
      rw [hnone n (by omega) line hrow] at hdeclares
      exact absurd hdeclares.symm hnearest

/-- With the standard pattern a use is in the routine that the nearest declaration line above it
names. -/
theorem scanFile_in_routine (hrules : scanner.declarations.IsDefault)
    (hread : disk.readLenient file = .ok source)
    (hresult : scanner.scanFile disk file term = some result) :
    List.Forall₂ (fun span m => m.isDeclaration = false →
      m.InRoutine scanner.declarations source span) (term.findAll source) result.hits :=
  forall₂_hits hread hresult fun _ hle hstop => inRoutine_hit hrules hle hstop

end Scanner

/-- A use on the third line, in the routine that the first line declares. -/
theorem sample_use_in_routine : ∃ result m,
    Sample.scanner.scanFile Sample.tree Sample.callerFile (.literal "x") = some result ∧
      result.hits = [m] ∧ m.isDeclaration = false ∧ (m.line, m.routine) = (3, "c") ∧
      m.InRoutine Sample.scanner.declarations Sample.callerSource ⟨15, 16⟩ := by
  have hfound : (Term.literal "x").findAll Sample.callerSource = [⟨15, 16⟩] := by decide +kernel
  have hhits : (Sample.scanner.scanFile Sample.tree Sample.callerFile (.literal "x")).map
      (·.hits.map fun m => (m.isDeclaration, m.line, m.routine)) = some [(false, 3, "c")] := by
    decide +kernel
  obtain ⟨result, hresult, hhits⟩ := Option.map_eq_some_iff.mp hhits
  obtain ⟨m, hm, hfields⟩ := List.map_eq_singleton_iff.mp hhits
  obtain ⟨huse, hplace⟩ := Prod.mk.inj hfields
  have hroutine := Scanner.scanFile_in_routine sample_isDefault Sample.read_caller hresult
  rw [hfound, hm, List.forall₂_cons] at hroutine
  exact ⟨result, m, hresult, hm, huse, hplace, hroutine.1 huse⟩

end TestReach
