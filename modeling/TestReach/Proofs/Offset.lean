import TestReach.Proofs.Location
import TestReach.Proofs.Scan
import TestReach.Proofs.Term

namespace TestReach

open Text

/-- `m` is the match at a span of `source`: it tells on which lines the span stands and where on them. -/
structure Match.Locates (m : Match) (source : String) (span : Span) : Prop where
  one_le_line : 1 ≤ m.line
  line_le : m.line ≤ (lines source.toList).length
  /-- The text is that of the lines from the one on which the span starts to the one on which it ends. -/
  text_eq : m.text.toList = ['\n'].intercalate (((lines source.toList).drop (m.line - 1)).take
    ((slice source.toList span.start span.stop).count '\n' + 1))
  zero_le_column : 0 ≤ m.column
  column_le : m.column ≤ m.columnEnd
  columnEnd_le : m.columnEnd ≤ m.text.toList.length
  matched_eq : m.matched.toList = slice source.toList span.start span.stop
  start_eq : (span.start : Int) = linesLength ((lines source.toList).take (m.line - 1)) + m.column

theorem Match.Locates.start_ext {m m' : Match} {source : String} {span span' : Span}
    (h : m.Locates source span) (h' : m'.Locates source span') (hline : m.line = m'.line)
    (hcolumn : m.column = m'.column) : span.start = span'.start := by
  have hstart := h.start_eq
  rw [hline, hcolumn, ← h'.start_eq] at hstart
  exact Int.ofNat.inj hstart

namespace Scanner

variable {scanner : Scanner} {disk : Disk} {file : Path} {path source : String} {term : Term}
  {span : Span} {result : FileResult}

theorem locates_hit (hle : span.start ≤ span.stop) (hstop : span.stop ≤ source.toList.length) :
    (scanner.hit path source span).Locates source span := by
  obtain ⟨before, part, rest, after, hspan, hstart, hplace⟩ := Location.exists_ofSpan hle hstop
  have hcount : (part ++ slice source.toList span.start span.stop ++ rest).count '\n' =
      (slice source.toList span.start span.stop).count '\n' := by
    rw [List.count_append, List.count_append, List.count_eq_zero.mpr hspan.part,
      List.count_eq_zero.mpr hspan.rest]
    omega
  have hlines := hspan.lines.lines_slice
  rw [hcount] at hlines
  constructor <;> simp only [hit, hplace, Nat.add_sub_cancel, String.toList_ofList]
  · exact Nat.le_add_left _ _
  · exact hspan.lines.count_lt_length_lines
  · rw [hlines, intercalate_lines]
  · exact Int.natCast_nonneg _
  · exact Int.ofNat_le.mpr (Nat.le_add_right _ _)
  · apply Int.ofNat_le.mpr
    rw [List.length_append, List.length_append]
    exact Nat.le_add_right _ _
  · rw [Match.matched, between, String.toList_ofList]
    simp only [String.toList_ofList, Location.position_natCast]
    rw [slice_add, List.append_assoc, List.drop_left, List.take_left]
  · rw [hspan.lines.length_before, ← hstart]
    rfl

theorem scanFile_of_read (hread : disk.readLenient file = .ok source) (term : Term) :
    scanner.scanFile disk file term = scanner.scanText file.toString source term := by
  rw [scanFile, visit, hread]

theorem scanText_eq_none_iff : scanner.scanText path source term = none ↔ term.findAll source = [] := by
  rw [scanText]
  split
  · rename_i hnone
    simpa using hnone
  · rename_i hits hsome
    simpa using hsome

theorem hits_of_scanText (h : scanner.scanText path source term = some result) :
    result.hits = (term.findAll source).map (scanner.hit path source) := by
  rw [scanText] at h
  split at h
  · cases h
  · cases h
    rfl

/-- What holds of the match at every span inside a text holds of the matches in a file, one for each
span and in order. -/
theorem forall₂_hits {holds : Span → Match → Prop} (hread : disk.readLenient file = .ok source)
    (hresult : scanner.scanFile disk file term = some result)
    (h : ∀ span : Span, span.start ≤ span.stop → span.stop ≤ source.toList.length →
      holds span (scanner.hit file.toString source span)) :
    List.Forall₂ holds (term.findAll source) result.hits := by
  rw [scanFile_of_read hread] at hresult
  rw [hits_of_scanText hresult, List.forall₂_map_right_iff, List.forall₂_same]
  intro span hspan
  obtain ⟨hle, hstop⟩ := Term.span_bounds hspan
  exact h span hle hstop

/-- A file that can be read has a result just when the term is found in it, with one match for each
span, in order, that tells where the span stands. -/
theorem scanFile_locates (scanner : Scanner) (hread : disk.readLenient file = .ok source) (term : Term) :
    (scanner.scanFile disk file term = none ↔ term.findAll source = []) ∧
    (∀ result, scanner.scanFile disk file term = some result →
      List.Forall₂ (fun span m => m.Locates source span) (term.findAll source) result.hits) ∧
    ∀ span span' (m m' : Match), m.Locates source span → m'.Locates source span' →
      m.line = m'.line → m.column = m'.column → span.start = span'.start := by
  refine ⟨?_, fun result hresult => ?_, fun _ _ _ _ h h' => h.start_ext h'⟩
  · rw [scanFile_of_read hread, scanText_eq_none_iff]
  · exact forall₂_hits hread hresult fun span hle hstop => locates_hit hle hstop

end Scanner

namespace Sample

def callerFile : Path := ⟨"", ["r", "c.py"]⟩

def callerSource : String := "def c():\n b()\n x\n"

theorem read_caller : tree.readLenient callerFile = .ok callerSource := by
  decide +kernel

end Sample

/-- A match over the end of a line, with both lines and the place in the first of them. -/
theorem sample_match_located : ∃ result m,
    Sample.scanner.scanFile Sample.tree Sample.callerFile (.literal "b()\n x") = some result ∧
      result.hits = [m] ∧ m.Locates Sample.callerSource ⟨10, 16⟩ ∧
      (m.line, m.column, m.columnEnd, m.text) = (2, 1, 7, " b()\n x") := by
  obtain ⟨hnone, hsome, -⟩ :=
    Scanner.scanFile_locates Sample.scanner Sample.read_caller (.literal "b()\n x")
  have hfound : (Term.literal "b()\n x").findAll Sample.callerSource = [⟨10, 16⟩] := by decide +kernel
  cases hresult : Sample.scanner.scanFile Sample.tree Sample.callerFile (.literal "b()\n x") with
  | none =>
    rw [hnone.mp hresult] at hfound
    cases hfound
  | some result =>
    have hlocated := hsome result hresult
    rw [Scanner.scanFile_of_read Sample.read_caller] at hresult
    have hhits := Scanner.hits_of_scanText hresult
    rw [hfound, List.map_singleton] at hhits
    rw [hfound, hhits, List.forall₂_cons] at hlocated
    refine ⟨result, _, rfl, hhits, hlocated.1, ?_⟩
    decide +kernel

end TestReach
