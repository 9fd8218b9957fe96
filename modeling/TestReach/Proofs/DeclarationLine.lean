import TestReach.Proofs.Declaration
import TestReach.Proofs.Offset

namespace TestReach

open Text Pattern

namespace Text.LineBetween

variable {text before row after : List Char} {test : Char → Bool} {p start first stop paren : Nat}

theorem stretch_iff (h : LineBetween text before row after) (hstop : stop ≤ row.length) :
    Stretch test text.toArray (before.length + start) (before.length + stop) ↔
      Stretch test row.toArray start stop := by
  constructor
  · intro hall i hi hi'
    obtain ⟨c, hc, htest⟩ := hall (before.length + i) (by omega) (by omega)
    rw [List.getElem?_toArray, h.getElem?_add (by omega)] at hc
    exact ⟨c, by rw [List.getElem?_toArray, hc], htest⟩
  · intro hall i hi hi'
    obtain ⟨k, rfl⟩ := Nat.exists_eq_add_of_le (Nat.le_trans (Nat.le_add_right _ start) hi)
    obtain ⟨c, hc, htest⟩ := hall k (by omega) (by omega)
    rw [List.getElem?_toArray] at hc
    exact ⟨c, by rw [List.getElem?_toArray, h.getElem?_add (by omega), hc], htest⟩

/-- A word begins on a line where it begins in the text: a line feed is no word character. -/
theorem boundary_iff (h : LineBetween text before row after) {c : Char} (hc : row[p]? = some c)
    (hword : isWord c = true) :
    (Anchor.wordBoundary false false).holds text.toArray (before.length + p) = true ↔
      (Anchor.wordBoundary false false).holds row.toArray p = true := by
  have hp := (List.getElem?_eq_some_iff.mp hc).1
  rw [boundary_before_word (by rw [h.getElem?_add hp, hc]) hword, boundary_before_word hc hword]
  cases p with
  | zero =>
    have hopened : before.length = 0 ∨ ∀ d ∈ text[before.length - 1]?, isWord d = false := by
      refine or_iff_not_imp_left.mpr fun hbefore d hd => ?_
      obtain rfl := h.eq_newline_of_before (mt List.length_eq_zero_iff.mpr hbefore) hd
      decide
    simpa using hopened
  | succ q =>
    rw [show before.length + (q + 1) - 1 = before.length + q by omega, h.getElem?_add (by omega)]
    simp

theorem declaredAt_iff (h : LineBetween text before row after) (hparen : paren < row.length) :
    DeclaredAt text (before.length + p) (before.length + first) (before.length + stop)
      (before.length + paren) ↔ DeclaredAt row p first stop paren := by
  constructor
  · rintro ⟨hboundary, hkeyword, ⟨hgap, hblank⟩, ⟨hname, hword⟩, ⟨hroom, hspace⟩, hopening⟩
    rw [Nat.add_assoc, Nat.add_assoc, h.getElem?_add (by omega), h.getElem?_add (by omega),
      h.getElem?_add (by omega)] at hkeyword
    rw [h.getElem?_add hparen] at hopening
    rw [Nat.add_assoc, h.stretch_iff (by omega)] at hblank
    rw [h.stretch_iff (by omega)] at hword hspace
    rw [h.boundary_iff hkeyword.1 (by decide)] at hboundary
    exact ⟨hboundary, hkeyword, ⟨by omega, hblank⟩, ⟨by omega, hword⟩, ⟨by omega, hspace⟩, hopening⟩
  · rintro ⟨hboundary, hkeyword, ⟨hgap, hblank⟩, ⟨hname, hword⟩, ⟨hroom, hspace⟩, hopening⟩
    rw [← h.boundary_iff hkeyword.1 (by decide)] at hboundary
    rw [← h.getElem?_add (by omega), ← h.getElem?_add (by omega), ← h.getElem?_add (by omega),
      ← Nat.add_assoc, ← Nat.add_assoc] at hkeyword
    rw [← h.getElem?_add hparen] at hopening
    rw [← h.stretch_iff (by omega), ← Nat.add_assoc] at hblank
    rw [← h.stretch_iff (by omega)] at hword hspace
    exact ⟨hboundary, hkeyword, ⟨by omega, hblank⟩, ⟨by omega, hword⟩, ⟨by omega, hspace⟩, hopening⟩

end Text.LineBetween

/-- A declaration whose text, from the keyword to the parenthesis, holds a line feed. -/
def DeclaredOverLines (text : List Char) : Prop :=
  ∃ p first stop paren, DeclaredAt text p first stop paren ∧ '\n' ∈ slice text p (paren + 1)

theorem DeclaredAt.exists_line {text : List Char} {p first stop paren : Nat}
    (h : DeclaredAt text p first stop paren) (hflat : '\n' ∉ slice text p (paren + 1)) :
    ∃ line ∈ lines text, ∃ p first stop paren, DeclaredAt line p first stop paren := by
  have hparen := (List.getElem?_eq_some_iff.mp h.opening).1
  have hgap := h.gap.1
  have hname := h.name.1
  have hroom := h.room.1
  obtain ⟨before, part, rest, after, hspan, hstart⟩ :=
    Location.exists_spanBetween (show p ≤ paren + 1 by omega) hparen
  -- Without a line feed up to the parenthesis the lines around the declaration are one.
  have hline : LineBetween text before (part ++ slice text p (paren + 1) ++ rest) after := by
    refine ⟨hspan.lines.eq_append, ?_, hspan.lines.opened, hspan.lines.closed⟩
    simp [hspan.part, hflat, hspan.rest]
  have hwidth : (slice text p (paren + 1)).length = paren + 1 - p := Location.length_slice hparen
  obtain ⟨first', rfl⟩ := Nat.exists_eq_add_of_le (show before.length ≤ first by omega)
  obtain ⟨stop', rfl⟩ := Nat.exists_eq_add_of_le (show before.length ≤ stop by omega)
  obtain ⟨paren', rfl⟩ := Nat.exists_eq_add_of_le (show before.length ≤ paren by omega)
  rw [← hstart] at h
  refine ⟨_, List.mem_of_getElem? hline.getElem?_lines, part.length, first', stop', paren',
    (hline.declaredAt_iff ?_).mp h⟩
  rw [List.length_append, List.length_append, hwidth]
  omega

def Span.Reaches (span : Span) (text : List Char) (i : Nat) : Prop :=
  (text.take span.start).count '\n' ≤ i ∧ i ≤ (text.take span.stop).count '\n'

/-- A span holds a character of a line that is no white space. -/
def Span.Marks (span : Span) (text : List Char) (i : Nat) : Prop :=
  ∃ p c, span.start ≤ p ∧ p < span.stop ∧ text[p]? = some c ∧ isBlank c = false ∧
    (text.take p).count '\n' = i

theorem Span.Marks.reaches {span : Span} {text : List Char} {i : Nat} (h : span.Marks text i) :
    span.Reaches text i := by
  obtain ⟨p, c, hstart, hstop, -, -, rfl⟩ := h
  exact ⟨(List.take_sublist_take_left hstart).count_le _,
    (List.take_sublist_take_left (Nat.le_of_lt hstop)).count_le _⟩

namespace Location.SpanBetween

variable {text before part middle rest after : List Char} {span : Span} {i : Nat}

theorem reaches_iff (h : SpanBetween text before part middle rest after)
    (hstart : before.length + part.length = span.start)
    (hstop : span.start + middle.length = span.stop) :
    span.Reaches text i ↔ ∃ k ≤ (part ++ middle ++ rest).count '\n', before.count '\n' + k = i := by
  have htake : text.take span.stop = before ++ part ++ middle := by
    rw [← hstop, ← hstart, h.eq_append, ← List.append_assoc, ← List.length_append,
      ← List.length_append, List.take_left]
  rw [Span.Reaches, htake, ← hstart, h.take_start]
  simp only [List.count_append, List.count_eq_zero.mpr h.part, List.count_eq_zero.mpr h.rest,
    Nat.add_zero, Nat.zero_add]
  constructor
  · rintro ⟨hfirst, hlast⟩
    obtain ⟨k, rfl⟩ := Nat.exists_eq_add_of_le hfirst
    exact ⟨k, by omega, rfl⟩
  · rintro ⟨k, hk, rfl⟩
    omega

theorem mem_lines_iff (h : SpanBetween text before part middle rest after)
    (hstart : before.length + part.length = span.start)
    (hstop : span.start + middle.length = span.stop) {line : List Char} :
    line ∈ Text.lines (part ++ middle ++ rest) ↔
      ∃ i, span.Reaches text i ∧ (Text.lines text)[i]? = some line := by
  rw [List.mem_iff_getElem?]
  constructor
  · rintro ⟨k, hk⟩
    have hlt := (List.getElem?_eq_some_iff.mp hk).1
    rw [length_lines] at hlt
    refine ⟨_, (h.reaches_iff hstart hstop).mpr ⟨k, by omega, rfl⟩, ?_⟩
    rw [h.lines.getElem?_lines (by omega), hk]
  · rintro ⟨i, hreaches, hi⟩
    obtain ⟨k, hk, rfl⟩ := (h.reaches_iff hstart hstop).mp hreaches
    exact ⟨k, by rw [← h.lines.getElem?_lines hk, hi]⟩

end Location.SpanBetween

namespace DeclarationRules

variable {rules : DeclarationRules} {text : List Char}

theorem IsDefault.isDeclaration_iff (h : rules.IsDefault) :
    rules.isDeclaration (String.ofList text) = true ↔
      ∃ p first stop paren, DeclaredAt text p first stop paren := by
  rw [isDeclaration, bne_iff_ne]
  constructor
  · intro hname
    obtain ⟨p, first, stop, paren, hat, -⟩ := h.exists_declaredAt hname
    rw [String.toList_ofList] at hat
    exact ⟨p, first, stop, paren, hat⟩
  · rintro ⟨p, first, stop, paren, hat⟩
    exact h.declaredName_ne_empty (by rwa [String.toList_ofList])

theorem IsDefault.isDeclaration_lines_iff (h : rules.IsDefault) :
    rules.isDeclaration (String.ofList text) = true ↔
      (∃ line ∈ lines text, rules.isDeclaration (String.ofList line) = true) ∨
        DeclaredOverLines text := by
  simp only [h.isDeclaration_iff]
  constructor
  · rintro ⟨p, first, stop, paren, hat⟩
    by_cases hflat : '\n' ∈ slice text p (paren + 1)
    · exact Or.inr ⟨p, first, stop, paren, hat, hflat⟩
    · exact Or.inl (hat.exists_line hflat)
  · rintro (⟨line, hmem, p, first, stop, paren, hat⟩ | ⟨p, first, stop, paren, hat, -⟩)
    · obtain ⟨i, hi⟩ := List.mem_iff_getElem?.mp hmem
      obtain ⟨before, after, hline, -⟩ := exists_lineBetween hi
      have hparen := (List.getElem?_eq_some_iff.mp hat.opening).1
      exact ⟨_, _, _, _, (hline.declaredAt_iff hparen).mpr hat⟩
    · exact ⟨p, first, stop, paren, hat⟩

def DeclaresLine (rules : DeclarationRules) (source : String) (i : Nat) : Prop :=
  ∃ line, (lines source.toList)[i]? = some line ∧ rules.isDeclaration (String.ofList line) = true

end DeclarationRules

structure Match.Classified (rules : DeclarationRules) (source : String) (span : Span) (m : Match) :
    Prop where
  /-- A line that the match reaches declares a routine, or a declaration runs over several of them. -/
  reached : m.isDeclaration = true →
    (∃ i, span.Reaches source.toList i ∧ rules.DeclaresLine source i) ∨ DeclaredOverLines m.text.toList
  /-- The line of a match without a line feed decides, whatever the match holds of it. -/
  inside : '\n' ∉ slice source.toList span.start span.stop → ∀ i, span.Reaches source.toList i →
    (m.isDeclaration = true ↔ rules.DeclaresLine source i)
  marked : ∀ i, span.Marks source.toList i → rules.DeclaresLine source i → m.isDeclaration = true

namespace Scanner

variable {scanner : Scanner} {disk : Disk} {file : Path} {path source : String} {term : Term}
  {span : Span} {result : FileResult}

theorem classified_hit (hdefault : scanner.declarations.IsDefault) (hle : span.start ≤ span.stop)
    (hstop : span.stop ≤ source.toList.length) :
    (scanner.hit path source span).Classified scanner.declarations source span := by
  obtain ⟨before, part, rest, after, hspan, hstart, hplace⟩ := Location.exists_ofSpan hle hstop
  have hwidth : span.start + (slice source.toList span.start span.stop).length = span.stop := by
    rw [Location.length_slice hstop, Nat.add_sub_cancel' hle]
  have hflag : (scanner.hit path source span).isDeclaration = scanner.declarations.isDeclaration
      (String.ofList (part ++ slice source.toList span.start span.stop ++ rest)) := by
    rw [hit, hplace]
  have hlines : (∃ i, span.Reaches source.toList i ∧ scanner.declarations.DeclaresLine source i) ↔
      ∃ line ∈ lines (part ++ slice source.toList span.start span.stop ++ rest),
        scanner.declarations.isDeclaration (String.ofList line) = true := by
    constructor
    · rintro ⟨i, hreaches, line, hline, hdeclares⟩
      exact ⟨line, (hspan.mem_lines_iff hstart hwidth).mpr ⟨i, hreaches, hline⟩, hdeclares⟩
    · rintro ⟨line, hmem, hdeclares⟩
      obtain ⟨i, hreaches, hline⟩ := (hspan.mem_lines_iff hstart hwidth).mp hmem
      exact ⟨i, hreaches, line, hline, hdeclares⟩
  constructor
  · rw [hflag, hdefault.isDeclaration_lines_iff, hlines, hit, hplace, String.toList_ofList]
    exact id
  -- Without a line feed in the match it reaches one line, which is all of the text around it.
  · intro hflat i hreaches
    have hzero : (part ++ slice source.toList span.start span.stop ++ rest).count '\n' = 0 := by
      simp [List.count_eq_zero, hspan.part, hflat, hspan.rest]
    obtain ⟨k, hk, rfl⟩ := (hspan.reaches_iff hstart hwidth).mp hreaches
    have hline := hspan.lines.getElem?_lines hk
    obtain rfl : k = 0 := by omega
    rw [lines_of_whole (List.count_eq_zero.mp hzero), List.getElem?_cons_zero] at hline
    rw [hflag]
    constructor
    · exact fun hdeclares => ⟨_, hline, hdeclares⟩
    · rintro ⟨line, hsame, hdeclares⟩
      rw [hline] at hsame
      cases hsame
      exact hdeclares
  · intro i hmarks hdeclares
    rw [hflag, hdefault.isDeclaration_lines_iff]
    exact Or.inl (hlines.mp ⟨i, hmarks.reaches, hdeclares⟩)

/-- With the standard pattern the lines that a match reaches decide whether it is a declaration. -/
theorem scanFile_classified (hdefault : scanner.declarations.IsDefault)
    (hread : disk.readLenient file = .ok source)
    (hresult : scanner.scanFile disk file term = some result) :
    List.Forall₂ (fun span m => m.Classified scanner.declarations source span) (term.findAll source)
      result.hits :=
  forall₂_hits hread hresult fun _ hle hstop => classified_hit hdefault hle hstop

end Scanner

/-- A match from a declaration line to the next one. -/
theorem sample_match_classified : ∃ result m,
    Sample.scanner.scanFile Sample.tree Sample.callerFile (.literal ":\n b") = some result ∧
      result.hits = [m] ∧ m.isDeclaration = true ∧
      m.Classified Sample.scanner.declarations Sample.callerSource ⟨7, 11⟩ := by
  have hfound : (Term.literal ":\n b").findAll Sample.callerSource = [⟨7, 11⟩] := by decide +kernel
  have hflags : (Sample.scanner.scanFile Sample.tree Sample.callerFile (.literal ":\n b")).map
      (·.hits.map (·.isDeclaration)) = some [true] := by decide +kernel
  obtain ⟨result, hresult, hhits⟩ := Option.map_eq_some_iff.mp hflags
  obtain ⟨m, hm, hflag⟩ := List.map_eq_singleton_iff.mp hhits
  have hclassified := Scanner.scanFile_classified sample_isDefault Sample.read_caller hresult
  rw [hfound, hm, List.forall₂_cons] at hclassified
  exact ⟨result, m, hresult, hm, hflag, hclassified.1⟩

namespace Sample

/-- One file, of which the only line is a declaration line. -/
def declaring : Disk where
  entries := [(["r"], .directory), (["r", "a.py"], .file "def f():\n".toUTF8.toList)]

end Sample

/-- A match of a blank on a declaration line is a declaration, though it holds nothing else. -/
theorem blank_match_declares :
    Sample.scanner.scanFile Sample.declaring ⟨"", ["r", "a.py"]⟩ (.literal " ") = some {
      path := "r/a.py"
      hits := [{
        path := "r/a.py", line := 1, column := 3, columnEnd := 4, text := "def f():"
        isDeclaration := true }] } ∧
      (Term.literal " ").findAll "def f():\n" = [⟨3, 4⟩] ∧
      ∀ i, ¬ Span.Marks ⟨3, 4⟩ "def f():\n".toList i := by
  refine ⟨by decide +kernel, by decide +kernel, ?_⟩
  rintro i ⟨p, c, hstart, hstop, hc, hblank, -⟩
  obtain rfl : p = 3 := by
    dsimp only at hstart hstop
    omega
  obtain rfl : ' ' = c := by simpa using hc
  revert hblank
  decide

end TestReach
