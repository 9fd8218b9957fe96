import TestReach.Proofs.Estimate
import TestReach.Proofs.Occurrence
import TestReach.Proofs.Pattern.WholeWord
import TestReach.TestCase

namespace TestReach

open Text

namespace Text

theorem FirstCut.slice_ne {needle text before after : List Char} (h : FirstCut needle text before after)
    {p : Nat} (hp : p < before.length) : slice text p (p + needle.length) ≠ needle := by
  intro hslice
  have hle := h.length_le (slice_eq_iff.mp hslice)
  omega

theorem decimalValue?_of_isAsciiDigit {c : Char} (h : isAsciiDigit c = true) :
    decimalValue? c = some (c.toNat - '0'.toNat) := by
  have hsmall : c.toNat < 128 := by have := isAsciiDigit_iff.mp h; omega
  rw [decimalValue?, if_pos hsmall, if_pos h]
  rfl

end Text

namespace TestCase.Rules

open Pattern

def estimateLabel : String := "Initial estimate: "

def estimateChar : CharTest :=
  .oneOf .exact false [.range '0'.toNat '9'.toNat, .range ':'.toNat ':'.toNat]

/-- What follows the label: digits and colons between word boundaries. -/
def estimateTail : List Node :=
  [.anchor (.wordBoundary false false), .capture 1 (.inOrder [.many .greedy 1 none estimateChar]),
    .anchor (.wordBoundary false false)]

def estimateNode : Node :=
  .inOrder (estimateLabel.toList.map (fun c => .one (.exactly c)) ++ estimateTail)

theorem compile_defaultEstimate : Rule.compile .estimate defaultEstimate =
    .ok ⟨defaultEstimate, estimateNode, [("estimate", 1)]⟩ := rfl

theorem estimateChar_admits_iff {c : Char} :
    estimateChar.admits c = true ↔ isAsciiDigit c = true ∨ c = ':' := by
  have hcolon : c.toNat = 58 ↔ c = ':' := ⟨fun h => Char.toNat_inj.mp h, fun h => h ▸ rfl⟩
  rw [isAsciiDigit_iff, ← hcolon]
  simp [estimateChar, CharTest.admits, Folding.fold, ClassItem.holds]
  omega

variable {layout : Layout} {identifier setup : String} {rules : Rules} {written before after : List Char}

theorem estimate_of_compile (h : compile layout identifier setup defaultEstimate = .ok rules) :
    rules.estimate = ⟨defaultEstimate, estimateNode, [("estimate", 1)]⟩ := by
  obtain ⟨first, -, h⟩ := bind_eq_ok.mp h
  obtain ⟨second, -, h⟩ := bind_eq_ok.mp h
  obtain ⟨third, hthird, h⟩ := bind_eq_ok.mp h
  obtain rfl := pure_eq_ok.mp h
  rw [compile_defaultEstimate] at hthird
  exact (Except.ok.inj hthird).symm

/-- A text that can be read as an estimate: digits and colons, a digit at both ends. -/
structure IsEstimate (written : List Char) : Prop where
  chars : ∀ c ∈ written, isAsciiDigit c = true ∨ c = ':'
  first : ∃ c, written.head? = some c ∧ isAsciiDigit c = true
  last : ∃ c, written.getLast? = some c ∧ isAsciiDigit c = true

theorem IsEstimate.of_digits (hne : written ≠ []) (h : ∀ c ∈ written, isAsciiDigit c = true) :
    IsEstimate written where
  chars c hc := Or.inl (h c hc)
  first := ⟨_, List.head?_eq_some_head hne, h _ (List.head_mem hne)⟩
  last := ⟨_, List.getLast?_eq_some_getLast hne, h _ (List.getLast_mem hne)⟩

theorem IsEstimate.append {more : List Char} (h : IsEstimate written) (hmore : IsEstimate more) :
    IsEstimate (written ++ [':'] ++ more) where
  chars c hc := by
    rw [List.mem_append, List.mem_append, List.mem_singleton] at hc
    rcases hc with (hc | rfl) | hc
    · exact h.chars c hc
    · exact Or.inr rfl
    · exact hmore.chars c hc
  first := by
    obtain ⟨c, hc, hdigit⟩ := h.first
    exact ⟨c, by simp [hc], hdigit⟩
  last := by
    obtain ⟨c, hc, hdigit⟩ := hmore.last
    have hne : more ≠ [] := by
      rintro rfl
      cases hc
    exact ⟨c, (List.getLast?_append_of_ne_nil _ hne).trans hc, hdigit⟩

/-- An estimate that stands alone is matched as a whole, although there are word boundaries inside. -/
theorem exists_ends_estimateTail {text : List Char} {q : Nat} (h : IsEstimate written)
    (hslice : slice text q (q + written.length) = written)
    (hbefore : q = 0 ∨ ∀ c ∈ text[q - 1]?, isWord c = false)
    (hafter : ∀ c ∈ text[q + written.length]?, isWord c = false ∧ c ≠ ':') :
    ∃ others, (Node.inOrder estimateTail).ends text.toArray { pos := q } =
      { pos := q + written.length, entered := [(1, q)], left := [(1, q + written.length)] } ::
        others := by
  obtain ⟨first, hfirst, hfirstDigit⟩ := h.first
  obtain ⟨last, hlast, hlastDigit⟩ := h.last
  rw [List.head?_eq_getElem?] at hfirst
  rw [List.getLast?_eq_getElem?] at hlast
  have hlength : 0 < written.length := (List.getElem?_eq_some_iff.mp hfirst).1
  have hchar (i : Nat) (hi : i < written.length) : text[q + i]? = written[i]? :=
    getElem?_of_slice hslice hi
  have hstart : (Anchor.wordBoundary false false).holds text.toArray q = true :=
    (boundary_before_word ((hchar 0 hlength).trans hfirst)
      (isWord_of_isAsciiDigit hfirstDigit)).mpr hbefore
  have hstop : (Anchor.wordBoundary false false).holds text.toArray (q + written.length) = true := by
    have hend := boundary_after_word ((hchar (written.length - 1) (by omega)).trans hlast)
      (isWord_of_isAsciiDigit hlastDigit)
    rw [Nat.add_assoc, Nat.sub_add_cancel hlength] at hend
    exact hend.mpr fun c hc => (hafter c hc).1
  have hrun : Stretch estimateChar.admits text.toArray q (q + written.length) := by
    intro i hi hi'
    obtain ⟨k, rfl⟩ := Nat.exists_eq_add_of_le hi
    have hk : k < written.length := by omega
    refine ⟨written[k], ?_, estimateChar_admits_iff.mpr (h.chars _ (List.getElem_mem hk))⟩
    rw [List.getElem?_toArray, hchar k hk, List.getElem?_eq_getElem hk]
  -- Neither a digit nor a colon follows, so the longest run is the estimate.
  have hend : ∀ c ∈ text.toArray[q + written.length]?, estimateChar.admits c = false := by
    intro c hc
    rw [List.getElem?_toArray] at hc
    obtain ⟨hword, hcolon⟩ := hafter c hc
    rw [Bool.eq_false_iff, Ne, estimateChar_admits_iff, not_or]
    refine ⟨fun hdigit => ?_, hcolon⟩
    rw [isWord_of_isAsciiDigit hdigit] at hword
    cases hword
  obtain ⟨shorter, hends⟩ := exists_runEnds_greedy (s := { pos := q, entered := [(1, q)] })
    hlength hrun hend
  have htail : (Node.inOrder estimateTail).ends text.toArray { pos := q } =
      ((runEnds text.toArray .greedy 1 none estimateChar { pos := q, entered := [(1, q)] }).map
        (State.leave · 1)).flatMap fun s =>
          if (Anchor.wordBoundary false false).holds text.toArray s.pos then [s] else [] := by
    simp [estimateTail, Node.inOrder, Node.ends, hstart, State.enter]
  rw [htail, hends, List.map_cons, List.flatMap_cons]
  exact ⟨_, congrArg (· ++ _) (if_pos hstop)⟩

theorem element_estimate (h : IsEstimate written) (hbefore : ¬ estimateLabel.toList <:+: before)
    (hafter : ∀ c ∈ after.head?, isWord c = false ∧ c ≠ ':') :
    Pattern.element ⟨defaultEstimate, estimateNode, [("estimate", 1)]⟩ "estimate"
      (String.ofList (before ++ estimateLabel.toList ++ (written ++ after))) = String.ofList written := by
  generalize htext : before ++ estimateLabel.toList ++ (written ++ after) = text
  generalize hq : before.length + estimateLabel.toList.length = q
  have hcut : FirstCut estimateLabel.toList text before (written ++ after) := by
    rw [← htext]
    exact firstCut_of_head (by decide) hbefore (written ++ after)
  have hslice : slice text q (q + written.length) = written := by
    rw [slice_add, ← htext, ← hq, ← List.length_append, List.drop_left, List.take_left]
  -- The label ends with a blank, so that a word begins behind it.
  have hfront : q = 0 ∨ ∀ c ∈ text[q - 1]?, isWord c = false := by
    refine Or.inr fun c hc => ?_
    have hlast : (before ++ estimateLabel.toList).getLast? = some ' ' :=
      List.getLast?_append_of_ne_nil _ (by decide)
    rw [← hq, ← List.length_append, ← htext, List.getElem?_append_left (by simp [estimateLabel]),
      ← List.getLast?_eq_getElem?, hlast] at hc
    obtain rfl := Option.some.inj hc
    decide
  have hback : ∀ c ∈ text[q + written.length]?, isWord c = false ∧ c ≠ ':' := by
    intro c hc
    rw [← hq, ← htext, ← List.length_append, List.getElem?_append_right (Nat.le_add_right ..),
      Nat.add_sub_cancel_left, List.getElem?_append_right le_rfl, Nat.sub_self,
      ← List.head?_eq_getElem?] at hc
    exact hafter c hc
  obtain ⟨others, hends⟩ := exists_ends_estimateTail h hslice hfront hback
  have hlabel : slice text before.length (before.length + estimateLabel.toList.length) =
      estimateLabel.toList := by
    rw [slice_add, hcut.eq_append, List.append_assoc, List.drop_left, List.take_left]
  have hmatch : estimateNode.matchAt text.toArray false before.length = some ⟨before.length,
      { pos := q + written.length, entered := [(1, q)], left := [(1, q + written.length)] }⟩ := by
    rw [Node.matchAt_eq_find?, estimateNode, ends_spelled, if_pos hlabel]
    dsimp only
    rw [hq, hends]
    rfl
  have hfits : before.length ≤ text.toArray.size := by
    rw [List.size_toArray, hcut.eq_append]
    simp
  -- A match begins with the label, and so no earlier than its first occurrence.
  have hfound := Node.search_of_first hfits hmatch fun p hp => by
    rw [estimateNode, ends_spelled, if_neg (hcut.slice_ne hp)]
  have hspan : ({ pos := q + written.length, entered := [(1, q)], left := [(1, q + written.length)] } :
      State).group? 1 = some ⟨q, q + written.length⟩ := by
    simp [State.group?]
  have hgroup : List.lookup "estimate" [("estimate", 1)] = some 1 := rfl
  rw [Pattern.element]
  simp only [String.toList_ofList, hfound, hgroup, hspan, hslice]

end TestCase.Rules

namespace Estimate

structure Numeral where
  value : Nat
  zeros : Nat := 0
deriving DecidableEq, Repr

def Numeral.chars (numeral : Numeral) : List Char :=
  List.replicate numeral.zeros '0' ++ Nat.toDigits 10 numeral.value

def written (numerals : List Numeral) : String :=
  ":".intercalate (numerals.map fun numeral => String.ofList numeral.chars)

theorem Numeral.isAsciiDigit_of_mem {numeral : Numeral} {c : Char} (hc : c ∈ numeral.chars) :
    isAsciiDigit c = true := by
  rcases List.mem_append.mp hc with hzero | hdigit
  · obtain rfl := List.eq_of_mem_replicate hzero
    decide
  · have hc := Nat.isDigit_of_mem_toDigits (by decide) (by decide) hdigit
    rw [Char.isDigit, Bool.and_eq_true, decide_eq_true_eq, decide_eq_true_eq] at hc
    exact isAsciiDigit_iff.mpr hc

theorem Numeral.chars_ne_nil (numeral : Numeral) : numeral.chars ≠ [] :=
  List.append_ne_nil_of_right_ne_nil _ Nat.toDigits_ne_nil

theorem Numeral.isNumber {numeral : Numeral} (h : numeral.chars.length ≤ digitLimit) :
    IsNumber numeral.chars where
  nonempty := numeral.chars_ne_nil
  decimals c hc := by rw [isDecimal, decimalValue?_of_isAsciiDigit (isAsciiDigit_of_mem hc)]; rfl
  length := h

theorem Numeral.decimalValue_chars (numeral : Numeral) : decimalValue numeral.chars = numeral.value := by
  have hvalues : numeral.chars.filterMap decimalValue? =
      numeral.chars.map fun c => c.toNat - '0'.toNat := by
    rw [← List.filterMap_eq_map]
    exact List.filterMap_congr fun c hc => decimalValue?_of_isAsciiDigit (isAsciiDigit_of_mem hc)
  have hread : numeral.chars.foldl (fun n c => n * 10 + (c.toNat - '0'.toNat)) 0 =
      Nat.ofDigitChars 10 numeral.chars 0 := by
    rw [Nat.ofDigitChars_eq_foldl]
    simp only [Nat.mul_comm]
  rw [decimalValue, ← ofDigits_eq_positional, ofDigits, hvalues, List.foldl_map, hread, chars,
    Nat.ofDigitChars_append, Nat.ofDigitChars_replicate_zero, Nat.mul_zero,
    Nat.ofDigitChars_ten_toDigits]

theorem toList_written (numerals : List Numeral) :
    (written numerals).toList = [':'].intercalate (numerals.map Numeral.chars) := by
  rw [written, String.toList_intercalate, List.map_map]
  congr 1
  exact List.map_congr_left fun numeral _ => String.toList_ofList

variable {numerals : List Numeral}

theorem isEstimate_written (hne : numerals ≠ []) :
    TestCase.Rules.IsEstimate (written numerals).toList := by
  rw [toList_written]
  have hone (numeral : Numeral) : TestCase.Rules.IsEstimate numeral.chars :=
    .of_digits numeral.chars_ne_nil fun c => Numeral.isAsciiDigit_of_mem
  induction numerals with
  | nil => exact absurd rfl hne
  | cons first rest ih =>
    cases rest with
    | nil =>
      rw [List.map_singleton, List.intercalate_singleton]
      exact hone first
    | cons second rest =>
      rw [List.map_cons, List.map_cons, List.intercalate_cons_cons]
      exact (hone first).append (ih (List.cons_ne_nil _ _))

theorem fieldsOf_written (hne : numerals ≠ []) :
    fieldsOf (written numerals) = numerals.map Numeral.chars := by
  have hplain {c : Char} (hc : isAsciiDigit c = true) : isBlank c = false := by
    by_contra hblank
    have hword := not_isWord_of_isBlank (Bool.not_eq_false _ ▸ hblank)
    rw [isWord_of_isAsciiDigit hc] at hword
    cases hword
  obtain ⟨-, ⟨first, hfirst, hfirstDigit⟩, last, hlast, hlastDigit⟩ := isEstimate_written hne
  have hstrip : strip (written numerals).toList = (written numerals).toList := by
    apply strip_of_ends
    · rw [hfirst]
      rintro c ⟨⟩
      exact hplain hfirstDigit
    · rw [hlast]
      rintro c ⟨⟩
      exact hplain hlastDigit
  rw [fieldsOf, hstrip, toList_written]
  apply split_intercalate rfl (by simpa using hne)
  intro piece hpiece c hc
  obtain ⟨numeral, -, rfl⟩ := List.mem_map.mp hpiece
  have hdigit := Numeral.isAsciiDigit_of_mem hc
  rw [beq_eq_false_iff_ne]
  rintro rfl
  cases hdigit

/-- Behind its label an estimate of numbers joined by colons is read back as it is written, and comes
to the sum of the numbers in base sixty. -/
theorem written_estimate_read_back {layout : TestCase.Layout} {identifier setup : String}
    {rules : TestCase.Rules}
    (hrules : TestCase.Rules.compile layout identifier setup TestCase.Rules.defaultEstimate = .ok rules)
    (hne : numerals ≠ []) (hlength : ∀ numeral ∈ numerals, numeral.chars.length ≤ digitLimit)
    {before after : String} (hbefore : ¬ TestCase.Rules.estimateLabel.toList <:+: before.toList)
    (hafter : ∀ c ∈ after.toList.head?, isWord c = false ∧ c ≠ ':') :
    (rules.info (before ++ TestCase.Rules.estimateLabel ++ written numerals ++ after)).estimate =
        written numerals ∧
      seconds (written numerals) = .ok (positional 60 (numerals.map Numeral.value)) := by
  constructor
  · have hread := TestCase.Rules.element_estimate (isEstimate_written hne) hbefore hafter
    have htext : before ++ TestCase.Rules.estimateLabel ++ written numerals ++ after =
        String.ofList (before.toList ++ TestCase.Rules.estimateLabel.toList ++
          ((written numerals).toList ++ after.toList)) := by
      simp [← String.toList_inj]
    rw [TestCase.Rules.info, TestCase.Rules.estimate_of_compile hrules, htext, hread,
      String.ofList_toList]
  · have hnumbers : ∀ field ∈ fieldsOf (written numerals), IsNumber field := by
      rw [fieldsOf_written hne]
      intro field hfield
      obtain ⟨numeral, hnumeral, rfl⟩ := List.mem_map.mp hfield
      exact Numeral.isNumber (hlength numeral hnumeral)
    rw [(counted _).numbers hnumbers, fieldsOf_written hne, List.map_map]
    congr 2
    exact List.map_congr_left fun numeral _ => numeral.decimalValue_chars

/-- Word boundaries inside the estimate, a label before it that is not completed, and a full stop
behind it. -/
theorem sample_estimate_read_back : ∃ rules : TestCase.Rules,
    TestCase.Rules.compile ⟨"test_cases", "test_", ".py"⟩ TestCase.Rules.defaultIdentifier
        TestCase.Rules.defaultSetup TestCase.Rules.defaultEstimate = .ok rules ∧
      (rules.info "Initial estimate:1 Initial estimate: 01:02:003.").estimate = "01:02:003" ∧
      seconds "01:02:003" = .ok 3723 := by
  have hread {rules : TestCase.Rules}
      (hrules : TestCase.Rules.compile ⟨"test_cases", "test_", ".py"⟩ TestCase.Rules.defaultIdentifier
        TestCase.Rules.defaultSetup TestCase.Rules.defaultEstimate = .ok rules) :
      (rules.info ("Initial estimate:1 " ++ TestCase.Rules.estimateLabel ++
          written [⟨1, 1⟩, ⟨2, 1⟩, ⟨3, 2⟩] ++ ".")).estimate = written [⟨1, 1⟩, ⟨2, 1⟩, ⟨3, 2⟩] ∧
        seconds (written [⟨1, 1⟩, ⟨2, 1⟩, ⟨3, 2⟩]) = .ok (positional 60 [1, 2, 3]) := by
    refine written_estimate_read_back hrules (by decide) (by decide) (by decide) fun c hc => ?_
    obtain rfl : '.' = c := Option.some.inj hc
    decide
  have hwritten : written [⟨1, 1⟩, ⟨2, 1⟩, ⟨3, 2⟩] = "01:02:003" := by decide +kernel
  rw [hwritten] at hread
  exact ⟨_, rfl, hread rfl⟩

end Estimate
end TestReach
