import Mathlib.Data.Bool.AllAny
import TestReach.Proofs.Pattern.WholeWord

namespace TestReach

namespace Text

variable {needle text : List Char} {pos skip : Nat}

theorem occurrencesFrom_skip (needle text : List Char) (pos skip : Nat) :
    occurrencesFrom needle pos skip text = occurrencesFrom needle (pos + skip) 0 (text.drop skip) := by
  induction text generalizing pos skip with
  | nil => rw [List.drop_nil]; rfl
  | cons c rest ih =>
    cases skip with
    | zero => rfl
    | succ skip =>
      rw [occurrencesFrom, ih, List.drop_succ_cons, Nat.add_right_comm, Nat.add_assoc]

theorem occurrencesFrom_drop (hne : needle ≠ []) (text : List Char) (pos : Nat) :
    occurrencesFrom needle pos 0 (text.drop pos) =
      match findFrom? needle pos (text.drop pos) with
      | some first => ⟨first, first + needle.length⟩ ::
          occurrencesFrom needle (first + needle.length) 0 (text.drop (first + needle.length))
      | none => [] := by
  generalize hrest : text.drop pos = rest
  induction rest generalizing pos with
  | nil => simp [occurrencesFrom, findFrom?, hne]
  | cons c rest ih =>
    have hnext : text.drop (pos + 1) = rest := by rw [← List.tail_drop, hrest, List.tail_cons]
    rw [occurrencesFrom, findFrom?]
    split
    · have hlength : 1 + (needle.length - 1) = needle.length :=
        Nat.add_sub_cancel' (List.length_pos_iff.mpr hne)
      -- The characters of an occurrence are skipped one by one behind its first.
      rw [occurrencesFrom_skip, ← hnext, List.drop_drop, Nat.add_assoc, hlength]
    · exact ih (pos + 1) hnext

end Text

namespace Pattern

def spelling (text : List Char) : Node :=
  .inOrder (text.map fun c => .one (.exactly c))

variable {needle text : List Char} {nonEmpty : Bool} {pos fuel : Nat}

theorem ends_spelling (needle text : List Char) (pos : Nat) :
    (spelling needle).ends text.toArray { pos } =
      if needle.isPrefixOf (text.drop pos) then [{ pos := pos + needle.length }] else [] := by
  have hspelled := ends_spelled needle text [] { pos }
  rw [List.append_nil] at hspelled
  rw [spelling, hspelled]
  simp only [Text.slice_eq_iff, List.isPrefixOf_iff_prefix]
  rfl

theorem matchAt_spelling (hne : needle ≠ []) (text : List Char) (nonEmpty : Bool) (pos : Nat) :
    (spelling needle).matchAt text.toArray nonEmpty pos =
      if needle.isPrefixOf (text.drop pos) then some ⟨pos, { pos := pos + needle.length }⟩
      else none := by
  have hlonger : (pos + needle.length == pos) = false := by simpa using hne
  rw [Node.matchAt_eq_find?, ends_spelling]
  split <;> simp [hlonger]

theorem search_spelling (hne : needle ≠ []) (text : List Char) (nonEmpty : Bool)
    (hpos : pos ≤ text.length) : (spelling needle).search text.toArray nonEmpty pos =
      (Text.findFrom? needle pos (text.drop pos)).map fun first =>
        ⟨first, { pos := first + needle.length }⟩ := by
  have hfuel : text.toArray.size + 1 - pos = (text.drop pos).length + 1 := by
    rw [List.size_toArray, List.length_drop]
    omega
  -- Both loops go over the places that are left, of which there is one more than characters.
  rw [Node.search, hfuel]
  generalize hrest : text.drop pos = rest
  clear hfuel hpos
  induction rest generalizing nonEmpty pos with
  | nil => simp [Node.searchFrom, matchAt_spelling hne, hrest, Text.findFrom?, hne]
  | cons c rest ih =>
    have hnext : text.drop (pos + 1) = rest := by rw [← List.tail_drop, hrest, List.tail_cons]
    rw [List.length_cons, Node.searchFrom, matchAt_spelling hne, hrest, ih _ hnext, Text.findFrom?]
    split <;> rfl

theorem spansFrom_spelling (hne : needle ≠ []) (hpos : pos ≤ text.length)
    (hfuel : text.length < pos + fuel) :
    (spelling needle).spansFrom text.toArray fuel nonEmpty pos =
      Text.occurrencesFrom needle pos 0 (text.drop pos) := by
  induction fuel generalizing nonEmpty pos with
  | zero => omega
  | succ fuel ih =>
    have hsearch := search_spelling hne text nonEmpty hpos
    rw [Node.spansFrom, Text.occurrencesFrom_drop hne]
    cases hfind : Text.findFrom? needle pos (text.drop pos) with
    | none =>
      rw [hfind] at hsearch
      rw [hsearch]
      rfl
    | some first =>
      rw [hfind, Option.map_some] at hsearch
      obtain ⟨hle, hsize, -⟩ := Node.search_eq_some hsearch
      have hstop := (Node.ends_advances _ _ _ hsize _ (Node.mem_ends_of_search hsearch)).2
      have hlength := List.length_pos_iff.mpr hne
      dsimp only at hle hstop
      rw [List.size_toArray] at hstop
      rw [hsearch]
      dsimp only
      rw [ih hstop (by omega)]
      rfl

theorem spans_spelling (hne : needle ≠ []) (text : List Char) :
    (spelling needle).spans text.toArray = Text.occurrences needle text := by
  rw [Node.spans, spansFrom_spelling hne (Nat.zero_le _) (by rw [List.size_toArray]; omega)]
  rfl

theorem escape_cons_special {c : Char} (hc : c ∈ specialChars) (text : List Char) :
    escape (c :: text) = '\\' :: c :: escape text := by
  simp [escape, hc]

theorem escape_cons_plain {c : Char} (hc : c ∉ specialChars) (text : List Char) :
    escape (c :: text) = c :: escape text := by
  simp [escape, hc]

theorem metaChars_subset_specialChars : metaChars ⊆ specialChars := by
  decide

theorem escape_append_ne_backslash (text : List Char) {rest : List Char} (hrest : rest ≠ ['\\']) :
    escape text ++ rest ≠ ['\\'] := by
  cases text with
  | nil => simpa [escape] using hrest
  | cons c text =>
    by_cases hc : c ∈ specialChars
    · simp [escape_cons_special hc]
    · rw [escape_cons_plain hc]
      rintro h
      obtain ⟨rfl, -⟩ := List.cons.inj h
      exact hc (by decide)

theorem escape_ne_backslash (text : List Char) : escape text ≠ ['\\'] := by
  simpa using escape_append_ne_backslash text (List.cons_ne_nil _ _).symm

theorem codeEscape?_special {c : Char} (hc : c ∈ specialChars) (r : Reader) :
    r.codeEscape? c = .ok (some c.toNat, r) := by
  have hall : ∀ c ∈ specialChars, controlCode? c = some c.toNat ∨ controlCode? c = none ∧
      hexWidth? c = none ∧ c ≠ 'N' ∧ (Text.isAsciiLetter c || Text.isAsciiDigit c) = false :=
    List.all_iff_forall_prop.mp (by decide)
  unfold Reader.codeEscape?
  rcases hall c hc with hcode | ⟨hcode, hwidth, hnamed, hplain⟩
  · rw [hcode]
  · rw [hcode, hwidth]
    simp [hnamed, hplain]

variable {b : Builder} {c : Char} {rest : List Char}

theorem Builder.escape_special (hmode : b.mode = {}) (hc : c ∈ specialChars) (r : Reader) :
    b.escape r c = .ok (b.atom (.one (.exactly c)), r) := by
  have hall : ∀ c ∈ specialChars, c ∉ ['A', 'Z', 'b', 'B'] ∧ category? c = none ∧
      Text.isAsciiDigit c = false := List.all_iff_forall_prop.mp (by decide)
  obtain ⟨hletter, hcategory, hdigit⟩ := hall c hc
  simp only [List.mem_cons, List.not_mem_nil, or_false, not_or] at hletter
  simp [escape, hletter, hcategory, hdigit, codeEscape?_special hc, bind, Except.bind, hmode,
    Mode.literal_default]
  rfl

theorem readSymbols_cons_escaped (hmode : b.mode = {}) (hc : c ∈ specialChars) (hrest : rest ≠ ['\\'])
    (pos fuel : Nat) : readSymbols (fuel + 1) b ⟨'\\' :: c :: rest, pos⟩ =
      readSymbols fuel (b.atom (.one (.exactly c))) ⟨rest, pos + 2⟩ := by
  have hskip : Reader.skip ⟨'\\' :: c :: rest, pos⟩ (.escaped c) = .ok ⟨rest, pos + 2⟩ := by
    simp [Reader.skip, Symbol.width, hrest]
  exact readSymbols_of_read rfl Symbol.noConfusion Symbol.noConfusion hskip
    (Builder.escape_special hmode hc _) fuel

theorem readSymbols_escape (b : Builder) (hmode : b.mode = {}) (text : List Char)
    (hrest : rest ≠ ['\\']) (pos fuel : Nat) :
    ∃ stop, readSymbols (text.length + fuel) b ⟨escape text ++ rest, pos⟩ =
      readSymbols fuel (b.spell text) ⟨rest, stop⟩ := by
  induction text generalizing b pos with
  | nil => exact ⟨pos, by rw [List.length_nil, Nat.zero_add]; rfl⟩
  | cons c text ih =>
    have hnext := ih (b.atom (.one (.exactly c))) hmode
    have htail := escape_append_ne_backslash text hrest
    rw [List.length_cons, Nat.add_right_comm, Builder.spell_cons]
    by_cases hc : c ∈ specialChars
    · obtain ⟨stop, hread⟩ := hnext (pos + 2)
      refine ⟨stop, ?_⟩
      rw [escape_cons_special hc, List.cons_append, List.cons_append,
        readSymbols_cons_escaped hmode hc htail, hread]
    · obtain ⟨stop, hread⟩ := hnext (pos + 1)
      have hmeta : c ∉ metaChars := fun h => hc (metaChars_subset_specialChars h)
      refine ⟨stop, ?_⟩
      rw [escape_cons_plain hc, List.cons_append, readSymbols_cons_plain hmode hmeta htail, hread]

def Builder.blank : Builder where
  frame := { opener := .whole, start := 0, mode := {} }

theorem parse_of_spell {pattern text : List Char} (hpattern : pattern ≠ ['\\'])
    {stop : Nat} (hread : readSymbols (pattern.length + 1) .blank ⟨pattern, 0⟩ =
      .ok (Builder.blank.spell text, ⟨[], stop⟩)) :
    parse pattern = .ok ⟨spelling text, []⟩ := by
  have hnode : spelling text = .inOrder (((text.map fun c =>
      Piece.atom (.one (.exactly c))).reverse).reverse.map Piece.node) := by
    simp [spelling, Piece.node, Function.comp_def]
  rw [hnode]
  refine parse_of_readSymbols stop hpattern ?_ ?_
  · rw [← List.append_nil (List.reverse _)]
    exact hread
  · intro piece hpiece
    obtain ⟨c, -, rfl⟩ := List.mem_map.mp (List.mem_reverse.mp hpiece)
    rfl

theorem length_le_length_escape (text : List Char) : text.length ≤ (escape text).length := by
  induction text with
  | nil => exact Nat.le_refl _
  | cons c text ih =>
    by_cases hc : c ∈ specialChars
    · rw [escape_cons_special hc]
      simp only [List.length_cons]
      omega
    · rw [escape_cons_plain hc]
      exact Nat.succ_le_succ ih

theorem parse_escape (text : List Char) : parse (escape text) = .ok ⟨spelling text, []⟩ := by
  obtain ⟨more, hmore⟩ := Nat.exists_eq_add_of_le (length_le_length_escape text)
  obtain ⟨stop, hread⟩ :=
    readSymbols_escape .blank rfl text (List.cons_ne_nil _ _).symm 0 (more + 1)
  rw [List.append_nil] at hread
  apply parse_of_spell (escape_ne_backslash text)
  rw [hmore, Nat.add_assoc, hread]
  rfl

theorem parse_plain {text : List Char} (htext : ∀ c ∈ text, c ∉ metaChars) :
    parse text = .ok ⟨spelling text, []⟩ := by
  have hread : readSymbols (text.length + 1) .blank ⟨text ++ [], 0⟩ =
      readSymbols 1 (Builder.blank.spell text) ⟨[], 0 + text.length⟩ :=
    readSymbols_plain rfl htext (List.cons_ne_nil _ _).symm 1
  rw [List.append_nil] at hread
  refine parse_of_spell ?_ hread
  rintro rfl
  exact htext '\\' (by simp) (by decide)

/-- The characters of the operators of patterns, among them those that only close what another opens. -/
def operators : List Char :=
  "\\.^$*+?\x7b\x7d[]|()".toList

theorem metaChars_subset_operators : metaChars ⊆ operators := by
  decide

end Pattern

namespace Term

theorem ofPattern_of_parse {source : String} {text : List Char} (hne : source ≠ "")
    (h : Pattern.parse source.toList = .ok ⟨Pattern.spelling text, []⟩) :
    ofPattern? source = .ok (.pattern ⟨source, Pattern.spelling text, []⟩) := by
  have hcompile : Pattern.compile source = .ok ⟨source, Pattern.spelling text, []⟩ := by
    rw [Pattern.compile, h]
    rfl
  rw [ofPattern?, if_neg (by simpa using hne), hcompile]

/-- A literal text is found just where its escaped form is as a pattern, and where the text is as a
pattern if it holds no operator. -/
theorem literal_agrees_with_pattern {text : String} (hne : text ≠ "") :
    ∃ literal escaped, make? text false = .ok literal ∧
      ofPattern? (String.ofList (Pattern.escape text.toList)) = .ok escaped ∧
      (∀ source, literal.findAll source = escaped.findAll source) ∧
      ((∀ c ∈ text.toList, c ∉ Pattern.operators) → ∃ plain, make? text true = .ok plain ∧
        ∀ source, literal.findAll source = plain.findAll source) := by
  have hchars : text.toList ≠ [] := by simpa using hne
  have hfind (compiled source : String) : (literal text).findAll source =
      (pattern ⟨compiled, Pattern.spelling text.toList, []⟩).findAll source :=
    (Pattern.spans_spelling hchars source.toList).symm
  have hescape : Pattern.escape text.toList ≠ [] := by
    have hlength := Pattern.length_le_length_escape text.toList
    have hpos := List.length_pos_iff.mpr hchars
    exact List.ne_nil_of_length_pos (by omega)
  refine ⟨.literal text, _, ?_, ofPattern_of_parse ?_ ?_, hfind _, fun hplain => ⟨_, ?_, hfind text⟩⟩
  · rw [make?, if_neg Bool.false_ne_true, ofLiteral?, if_neg (by simpa using hne)]
  · simpa using hescape
  · rw [String.toList_ofList, Pattern.parse_escape]
  · rw [make?, if_pos rfl]
    exact ofPattern_of_parse hne
      (Pattern.parse_plain fun c hc hmeta => hplain c hc (Pattern.metaChars_subset_operators hmeta))

end Term

/-- A text that overlaps itself and holds a blank, which is escaped but is no operator. -/
theorem overlapping_literal_agrees :
    "a a" ≠ "" ∧ (∀ c ∈ "a a".toList, c ∉ Pattern.operators) ∧ ∃ literal escaped plain,
      Term.make? "a a" false = .ok literal ∧ Term.ofPattern? "a\\ a" = .ok escaped ∧
      Term.make? "a a" true = .ok plain ∧ literal.findAll "a a a a" = [⟨0, 3⟩, ⟨4, 7⟩] ∧
      ∀ source, escaped.findAll source = literal.findAll source ∧
        plain.findAll source = literal.findAll source := by
  have hne : "a a" ≠ "" := by decide
  have hplain : ∀ c ∈ "a a".toList, c ∉ Pattern.operators :=
    List.all_iff_forall_prop.mp (by decide)
  obtain ⟨literal, escaped, hliteral, hescaped, hagree, hregex⟩ := Term.literal_agrees_with_pattern hne
  obtain ⟨plain, hplain', hagree'⟩ := hregex hplain
  have hfound : literal.findAll "a a a a" = [⟨0, 3⟩, ⟨4, 7⟩] := by
    obtain rfl : Term.literal "a a" = literal := Except.ok.inj hliteral
    decide
  exact ⟨hne, hplain, literal, escaped, plain, hliteral, hescaped, hplain', hfound,
    fun source => ⟨(hagree source).symm, (hagree' source).symm⟩⟩

end TestReach
