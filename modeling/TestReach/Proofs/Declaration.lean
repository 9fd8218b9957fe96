import TestReach.Declaration
import TestReach.Proofs.Pattern.WholeWord

namespace TestReach

open Text Pattern

/-- A declaration starts at position `p` of a text. The name stands from `first` up to `stop`, and
the parenthesis at `paren`. -/
structure DeclaredAt (text : List Char) (p first stop paren : Nat) : Prop where
  boundary : (Anchor.wordBoundary false false).holds text.toArray p = true
  keyword : text[p]? = some 'd' ∧ text[p + 1]? = some 'e' ∧ text[p + 2]? = some 'f'
  gap : p + 3 < first ∧ Stretch isBlank text.toArray (p + 3) first
  name : first < stop ∧ Stretch isWord text.toArray first stop
  room : stop ≤ paren ∧ Stretch isBlank text.toArray stop paren
  opening : text[paren]? = some '('

namespace DeclaredAt

variable {text : List Char} {p first stop paren : Nat}

theorem add_length_name (h : DeclaredAt text p first stop paren) :
    first + (slice text first stop).length = stop := by
  obtain ⟨c, hc, -⟩ := h.name.2 (stop - 1) (by have := h.name.1; omega) (by have := h.name.1; omega)
  rw [List.getElem?_toArray] at hc
  have hlt := (List.getElem?_eq_some_iff.mp hc).1
  have hname := h.name.1
  rw [slice, List.length_drop, List.length_take]
  omega

theorem name_ne_nil (h : DeclaredAt text p first stop paren) : slice text first stop ≠ [] := by
  intro hempty
  have hend := h.add_length_name
  have hname := h.name.1
  rw [hempty, List.length_nil] at hend
  omega

theorem isWord_of_mem_name (h : DeclaredAt text p first stop paren) {c : Char}
    (hc : c ∈ slice text first stop) : isWord c = true := by
  obtain ⟨i, hi, rfl⟩ := List.getElem_of_mem hc
  have hend := h.add_length_name
  obtain ⟨d, hd, hword⟩ := h.name.2 (first + i) (by omega) (by omega)
  rw [List.getElem?_toArray, getElem?_of_slice (by rw [hend]) hi, List.getElem?_eq_getElem hi] at hd
  rwa [Option.some.inj hd]

/-- The white space before a name and the white space or the parenthesis behind it delimit it. -/
theorem wordAt (h : DeclaredAt text p first stop paren) :
    WordAt (slice text first stop) text first where
  spelled := by rw [h.add_length_name]
  before := by
    obtain ⟨c, hc, hblank⟩ := h.gap.2 (first - 1) (by have := h.gap.1; omega)
      (by have := h.gap.1; omega)
    rw [List.getElem?_toArray] at hc
    refine Or.inr fun d hd => ?_
    obtain rfl : c = d := by simpa [hc] using hd
    exact not_isWord_of_isBlank hblank
  after := by
    intro d hd
    rw [h.add_length_name] at hd
    rcases Nat.eq_or_lt_of_le h.room.1 with hparen | hblank
    · obtain rfl : '(' = d := by simpa [hparen, h.opening] using hd
      decide
    · obtain ⟨c, hc, hblank⟩ := h.room.2 stop (Nat.le_refl _) hblank
      rw [List.getElem?_toArray] at hc
      obtain rfl : c = d := by simpa [hc] using hd
      exact not_isWord_of_isBlank hblank

theorem append (h : DeclaredAt text p first stop paren) (more : List Char) :
    DeclaredAt (text ++ more) p first stop paren := by
  have hchar {i : Nat} {c : Char} (hc : text[i]? = some c) : (text ++ more)[i]? = some c := by
    rw [List.getElem?_append_left (List.getElem?_eq_some_iff.mp hc).1, hc]
  have hstretch {test : Char → Bool} {start stop : Nat}
      (hall : Stretch test text.toArray start stop) :
      Stretch test (text ++ more).toArray start stop := by
    intro i hi hi'
    obtain ⟨c, hc, htest⟩ := hall i hi hi'
    rw [List.getElem?_toArray] at hc
    exact ⟨c, by rw [List.getElem?_toArray, hchar hc], htest⟩
  refine ⟨?_, ⟨hchar h.keyword.1, hchar h.keyword.2.1, hchar h.keyword.2.2⟩,
    ⟨h.gap.1, hstretch h.gap.2⟩, ⟨h.name.1, hstretch h.name.2⟩, ⟨h.room.1, hstretch h.room.2⟩,
    hchar h.opening⟩
  -- The boundary looks at the character before the keyword, which stays.
  have hbefore := (boundary_before_word h.keyword.1 (by decide)).mp h.boundary
  refine (boundary_before_word (hchar h.keyword.1) (by decide)).mpr (hbefore.imp_right ?_)
  have hlt := (List.getElem?_eq_some_iff.mp h.keyword.1).1
  intro hnot
  rwa [List.getElem?_append_left (by omega)]

end DeclaredAt

namespace DeclarationRules

def blank : CharTest := .oneOf .exact false [.category .blank false false]

def word : CharTest := .oneOf .exact false [.category .word false false]

@[simp] theorem blank_admits : blank.admits = isBlank := by
  funext c
  simp [blank, CharTest.admits, Folding.fold, ClassItem.holds, Category.holds]

@[simp] theorem word_admits : word.admits = isWord := by
  funext c
  simp [word, CharTest.admits, Folding.fold, ClassItem.holds, Category.holds]

theorem exists_exactly_iff {char : Option Char} {c : Char} :
    (∃ d, char = some d ∧ (CharTest.exactly c).admits d = true) ↔ char = some c := by
  simp [CharTest.admits]

def defaultNode : Node :=
  .inOrder [.anchor (.wordBoundary false false), .one (.exactly 'd'), .one (.exactly 'e'),
    .one (.exactly 'f'), .many .greedy 1 none blank,
    .capture 1 (.inOrder [.many .greedy 1 none word]), .many .greedy 0 none blank,
    .one (.exactly '(')]

def IsDefault (rules : DeclarationRules) : Prop :=
  Rule.compile .declaration defaultPattern = .ok rules.pattern

theorem isDefault_of_compile {ignored : List String} {rules : DeclarationRules}
    (h : compile defaultPattern ignored = .ok rules) : rules.IsDefault := by
  unfold compile at h
  cases hpattern : Rule.compile .declaration defaultPattern with
  | error invalid =>
    rw [hpattern] at h
    cases h
  | ok pattern =>
    cases hignored : ignored.mapM (Rule.compile .ignoredRoutine) with
    | error invalid =>
      rw [hpattern, hignored] at h
      cases h
    | ok patterns =>
      rw [hpattern, hignored] at h
      cases h
      exact hpattern

theorem IsDefault.pattern_eq {rules : DeclarationRules} (h : rules.IsDefault) :
    rules.pattern = ⟨defaultPattern, defaultNode, [("name", 1)]⟩ := by
  have hcompile : Rule.compile .declaration defaultPattern =
      .ok ⟨defaultPattern, defaultNode, [("name", 1)]⟩ := rfl
  unfold IsDefault at h
  rw [hcompile] at h
  exact (Except.ok.inj h).symm

theorem mem_ends_defaultNode {line : List Char} {p : Nat} {s : State} :
    s ∈ defaultNode.ends line.toArray { pos := p } ↔ ∃ first stop paren,
      DeclaredAt line p first stop paren ∧
        s = { pos := paren + 1, entered := [(1, first)], left := [(1, stop)] } := by
  simp only [defaultNode, Node.inOrder, List.foldr_cons, List.foldr_nil, mem_ends_seq,
    mem_ends_anchor, mem_ends_one, mem_ends_greedy, mem_ends_capture, mem_ends_empty,
    List.getElem?_toArray, State.enter, State.leave, blank_admits, word_admits, exists_exactly_iff]
  constructor
  · rintro ⟨_, ⟨hboundary, rfl⟩, _, ⟨hd, rfl⟩, _, ⟨he, rfl⟩, _, ⟨hf, rfl⟩,
      _, ⟨gap, hgap, hblank, rfl⟩,
      _, ⟨_, ⟨_, ⟨length, hlength, hword, rfl⟩, rfl⟩, rfl⟩,
      _, ⟨room, -, hroom, rfl⟩, _, ⟨hparen, rfl⟩, rfl⟩
    refine ⟨p + 3 + gap, p + 3 + gap + length, p + 3 + gap + length + room, ?_, rfl⟩
    exact {
      boundary := hboundary
      keyword := ⟨hd, he, hf⟩
      gap := ⟨by omega, hblank⟩
      name := ⟨by omega, hword⟩
      room := ⟨by omega, hroom⟩
      opening := hparen }
  · rintro ⟨first, stop, paren, hat, rfl⟩
    obtain ⟨gap, rfl⟩ := Nat.exists_eq_add_of_lt hat.gap.1
    obtain ⟨length, rfl⟩ := Nat.exists_eq_add_of_lt hat.name.1
    obtain ⟨room, rfl⟩ := Nat.exists_eq_add_of_le hat.room.1
    exact ⟨_, ⟨hat.boundary, rfl⟩, _, ⟨hat.keyword.1, rfl⟩, _, ⟨hat.keyword.2.1, rfl⟩,
      _, ⟨hat.keyword.2.2, rfl⟩, _, ⟨gap + 1, by omega, hat.gap.2, rfl⟩,
      _, ⟨_, ⟨_, ⟨length + 1, by omega, hat.name.2, rfl⟩, rfl⟩, rfl⟩,
      _, ⟨room, Nat.zero_le _, hat.room.2, rfl⟩, _, ⟨hat.opening, rfl⟩, rfl⟩

variable {rules : DeclarationRules} {line : String} {p first stop paren : Nat}

theorem IsDefault.declaredName_of_search (h : rules.IsDefault) {found : Found}
    (hfound : defaultNode.search line.toList.toArray false 0 = some found) :
    ∃ first stop paren, DeclaredAt line.toList found.start first stop paren ∧
      rules.declaredName line = String.ofList (slice line.toList first stop) := by
  obtain ⟨first, stop, paren, hat, hfinal⟩ := mem_ends_defaultNode.mp (Node.mem_ends_of_search hfound)
  refine ⟨first, stop, paren, hat, ?_⟩
  have hspan : found.final.group? 1 = some ⟨first, stop⟩ := by
    simp [hfinal, State.group?, Nat.le_of_lt hat.name.1]
  have hgroup : List.lookup "name" [("name", 1)] = some 1 := rfl
  rw [declaredName, h.pattern_eq, Pattern.element]
  simp only [hfound, hgroup, hspan]

theorem IsDefault.declaredName_of_search_none (h : rules.IsDefault)
    (hnone : defaultNode.search line.toList.toArray false 0 = none) :
    rules.declaredName line = "" := by
  rw [declaredName, h.pattern_eq, Pattern.element]
  simp only [hnone]

theorem IsDefault.exists_declaredAt (h : rules.IsDefault) (hname : rules.declaredName line ≠ "") :
    ∃ p first stop paren, DeclaredAt line.toList p first stop paren ∧
      rules.declaredName line = String.ofList (slice line.toList first stop) := by
  cases hsearch : defaultNode.search line.toList.toArray false 0 with
  | none => exact absurd (h.declaredName_of_search_none hsearch) hname
  | some found => exact ⟨found.start, h.declaredName_of_search hsearch⟩

theorem IsDefault.declaredName_ne_empty (h : rules.IsDefault)
    (hat : DeclaredAt line.toList p first stop paren) : rules.declaredName line ≠ "" := by
  have hlt := (List.getElem?_eq_some_iff.mp hat.keyword.1).1
  obtain ⟨found, hfound⟩ := Node.exists_search_of_ends
    (mem_ends_defaultNode.mpr ⟨first, stop, paren, hat, rfl⟩)
    (by rw [List.size_toArray]; exact Nat.le_of_lt hlt)
  obtain ⟨first', stop', paren', hat', hname⟩ := h.declaredName_of_search hfound
  rw [hname]
  intro hempty
  exact hat'.name_ne_nil (by simpa using congrArg String.toList hempty)

theorem IsDefault.nameOnLine_eq (h : rules.IsDefault) (line : List Char) :
    rules.nameOnLine line = rules.declaredName (String.ofList line) := by
  unfold nameOnLine
  split
  · rename_i hblank
    by_contra hname
    obtain ⟨p, first, stop, paren, hat, -⟩ := h.exists_declaredAt (Ne.symm hname)
    rw [String.toList_ofList] at hat
    -- The keyword is no white space.
    have hkeyword := List.all_eq_true.mp hblank _ (List.mem_of_getElem? hat.keyword.1)
    revert hkeyword
    decide
  · rfl

theorem IsDefault.declaredName_append_ne_empty (h : rules.IsDefault) {line : List Char}
    (hname : rules.nameOnLine line ≠ "") (more : List Char) :
    rules.declaredName (String.ofList (line ++ more)) ≠ "" := by
  rw [h.nameOnLine_eq] at hname
  obtain ⟨p, first, stop, paren, hat, -⟩ := h.exists_declaredAt hname
  rw [String.toList_ofList] at hat
  exact h.declaredName_ne_empty (by rw [String.toList_ofList]; exact hat.append more)

/-- `name` is taken from line `n` of a text, counted from zero: no line further down declares one. -/
structure NearestAt (rules : DeclarationRules) (text : List Char) (n : Nat) (name : String) :
    Prop where
  declares : ∃ line, (lines text)[n]? = some line ∧ rules.nameOnLine line = name
  nearest : ∀ i, n < i → ∀ line ∈ (lines text)[i]?, rules.nameOnLine line = ""

theorem exists_nearestAt (rules : DeclarationRules) {text : List Char}
    (hname : rules.nearestName text ≠ "") :
    ∃ n, rules.NearestAt text n (rules.nearestName text) := by
  unfold nearestName at hname ⊢
  dsimp only at hname ⊢
  cases hfound : (lines text).reverse.findSome? fun line =>
      if rules.nameOnLine line == "" then none else some (rules.nameOnLine line) with
  | none =>
    rw [hfound] at hname
    exact absurd rfl hname
  | some name =>
    obtain ⟨below, line, above, hsplit, hline, hbelow⟩ := List.findSome?_eq_some_iff.mp hfound
    have hlines : lines text = above.reverse ++ line :: below.reverse := by
      have hreverse := congrArg List.reverse hsplit
      simpa using hreverse
    refine ⟨above.reverse.length, ⟨line, ?_, ?_⟩, ?_⟩
    · rw [hlines, List.getElem?_append_right (Nat.le_refl _), Nat.sub_self, List.getElem?_cons_zero]
    · split at hline
      · cases hline
      · simpa using hline
    · intro i hi later hlater
      obtain ⟨k, rfl⟩ := Nat.exists_eq_add_of_lt hi
      rw [hlines, List.getElem?_append_right (by omega),
        show above.reverse.length + k + 1 - above.reverse.length = k + 1 by omega,
        List.getElem?_cons_succ] at hlater
      have hnone := hbelow later (List.mem_reverse.mp (List.mem_of_getElem? hlater))
      simpa using hnone

theorem nameOnLine_eq_empty (rules : DeclarationRules) {text line : List Char} (h : rules.nearestName text = "")
    (hline : line ∈ lines text) : rules.nameOnLine line = "" := by
  by_contra hname
  have hnamed : (if rules.nameOnLine line == "" then none else some (rules.nameOnLine line)) =
      some (rules.nameOnLine line) := by simpa using hname
  unfold nearestName at h
  dsimp only at h
  cases hfound : (lines text).reverse.findSome? fun line =>
      if rules.nameOnLine line == "" then none else some (rules.nameOnLine line) with
  | none =>
    have hnone := List.findSome?_eq_none_iff.mp hfound line (List.mem_reverse.mpr hline)
    rw [hnamed] at hnone
    cases hnone
  | some name =>
    obtain ⟨other, -, hother⟩ := List.exists_of_findSome?_eq_some hfound
    obtain ⟨hne, hname⟩ := Option.ite_none_left_eq_some.mp hother
    rw [hfound, Option.getD_some, ← Option.some.inj hname] at h
    exact hne (beq_iff_eq.mpr h)

theorem nearestName_of_enclosing {text : List Char} (h : rules.enclosing text ≠ "") :
    rules.enclosing text = rules.nearestName text := by
  unfold enclosing at h ⊢
  dsimp only at h ⊢
  split
  · rename_i hignored
    rw [if_pos hignored] at h
    exact absurd rfl h
  · rfl

end DeclarationRules
end TestReach
