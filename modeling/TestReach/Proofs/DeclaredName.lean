import TestReach.Proofs.Declaration

namespace TestReach

open Text Pattern

namespace Text

variable {text : List Char} {test : Char → Bool} {p q : Nat}

theorem drop_of_getElem? {c : Char} (h : text[p]? = some c) :
    text.drop p = c :: text.drop (p + 1) := by
  obtain ⟨hp, rfl⟩ := List.getElem?_eq_some_iff.mp h
  exact List.drop_eq_getElem_cons hp

theorem dropWhile_of_stretch (hle : p ≤ q) (h : Stretch test text.toArray p q)
    (hend : ∀ c ∈ text[q]?, test c = false) :
    (text.drop p).takeWhile test = slice text p q ∧ (text.drop p).dropWhile test = text.drop q := by
  obtain ⟨n, rfl⟩ := Nat.exists_eq_add_of_le hle
  induction n generalizing p with
  | zero =>
    rw [Nat.add_zero] at hend ⊢
    rw [slice_self]
    cases hdrop : text.drop p with
    | nil => exact ⟨rfl, rfl⟩
    | cons c rest =>
      have hc : test c = false :=
        hend c (by rw [← List.head?_drop, hdrop, List.head?_cons, Option.mem_def])
      simp [hc]
  | succ n ih =>
    obtain ⟨⟨c, hc, htest⟩, hrest⟩ := (stretch_iff_of_lt (by omega)).mp h
    rw [List.getElem?_toArray] at hc
    have hshift : p + (n + 1) = p + 1 + n := by omega
    have hlater := ih (Nat.le_add_right _ _) (hshift ▸ hrest) (hshift ▸ hend)
    rw [drop_of_getElem? hc, List.takeWhile_cons_of_pos htest, List.dropWhile_cons_of_pos htest, slice_succ hc,
      hlater.1, hlater.2, hshift]
    exact ⟨rfl, rfl⟩

theorem exists_stretch_takeWhile (test : Char → Bool) (text : List Char) (p : Nat) :
    ∃ n, ((text.drop p).takeWhile test).length = n ∧ Stretch test text.toArray p (p + n) ∧
      (text.drop p).dropWhile test = text.drop (p + n) := by
  have hsplit : text.drop p = (text.drop p).takeWhile test ++ (text.drop p).dropWhile test :=
    List.takeWhile_append_dropWhile.symm
  have hpass : ∀ c ∈ (text.drop p).takeWhile test, test c = true :=
    List.all_eq_true.mp List.all_takeWhile
  generalize (text.drop p).takeWhile test = run at hsplit hpass ⊢
  refine ⟨run.length, rfl, ?_, ?_⟩
  · intro i hi hi'
    obtain ⟨k, rfl⟩ := Nat.exists_eq_add_of_le hi
    have hk : k < run.length := by omega
    refine ⟨run[k], ?_, hpass _ (List.getElem_mem hk)⟩
    rw [List.getElem?_toArray, ← List.getElem?_drop, hsplit, List.getElem?_append_left hk,
      List.getElem?_eq_getElem hk]
  · rw [← List.drop_drop]
    nth_rewrite 2 [hsplit]
    exact List.drop_left.symm

end Text

namespace DeclarationRules

/-- The name in a declaration that begins with the first character of a text: keyword, white space,
the longest run of word characters, white space, parenthesis. -/
def nameHere? : List Char → Option (List Char)
  | 'd' :: 'e' :: 'f' :: rest =>
    let name := (rest.dropWhile isBlank).takeWhile isWord
    let behind := ((rest.dropWhile isBlank).dropWhile isWord).dropWhile isBlank
    if rest.head?.any isBlank && !name.isEmpty && behind.head? == some '(' then some name else none
  | _ => none

/-- The name in the first declaration of a text; nothing if there is none. `inWord` tells whether a
word character stands before the text. -/
def firstName (inWord : Bool) : List Char → List Char
  | [] => []
  | c :: rest =>
    (if inWord then none else nameHere? (c :: rest)).getD (firstName (isWord c) rest)

variable {text name : List Char} {p first stop paren : Nat}

theorem not_isBlank_of_isWord {c : Char} (h : isWord c = true) : isBlank c = false := by
  cases hblank : isBlank c with
  | false => rfl
  | true =>
    rw [not_isWord_of_isBlank hblank] at h
    cases h

theorem drop_keyword (h : text[p]? = some 'd' ∧ text[p + 1]? = some 'e' ∧ text[p + 2]? = some 'f') :
    text.drop p = 'd' :: 'e' :: 'f' :: text.drop (p + 3) := by
  rw [drop_of_getElem? h.1, drop_of_getElem? h.2.1, drop_of_getElem? h.2.2]

theorem nameHere?_of_declaredAt (h : DeclaredAt text p first stop paren) :
    nameHere? (text.drop p) = some (slice text first stop) := by
  have hgap := dropWhile_of_stretch (Nat.le_of_lt h.gap.1) h.gap.2 (by
    intro c hc
    obtain ⟨d, hd, hword⟩ := h.name.2 first (Nat.le_refl _) h.name.1
    rw [List.getElem?_toArray, Option.mem_def.mp hc] at hd
    rw [Option.some.inj hd]
    exact not_isBlank_of_isWord hword)
  have hname := dropWhile_of_stretch (Nat.le_of_lt h.name.1) h.name.2 (by
    have hafter := h.wordAt.after
    rwa [h.add_length_name] at hafter)
  have hroom := dropWhile_of_stretch h.room.1 h.room.2 (by
    intro c hc
    rw [h.opening] at hc
    obtain rfl := Option.some.inj hc
    decide)
  have hblank : (text.drop (p + 3)).head?.any isBlank = true := by
    obtain ⟨c, hc, hblank⟩ := h.gap.2 (p + 3) (Nat.le_refl _) h.gap.1
    rw [List.getElem?_toArray] at hc
    rw [List.head?_drop, hc]
    exact hblank
  have hparen : (text.drop paren).head? = some '(' := by rw [List.head?_drop, h.opening]
  rw [drop_keyword h.keyword, nameHere?, hgap.2, hname.1, hname.2, hroom.2, hparen, hblank]
  simp [h.name_ne_nil]

theorem boundary_eq_not_wordBefore {c : Char} (hc : text[p]? = some c) (hword : isWord c = true) :
    (Anchor.wordBoundary false false).holds text.toArray p = !wordBefore false text.toArray p := by
  have hsize : text ≠ [] := by
    rintro rfl
    cases hc
  simp [Anchor.holds, wordAt_of_isWord hc hword, hsize]

theorem exists_declaredAt_of_nameHere? (hbefore : wordBefore false text.toArray p = false)
    (h : nameHere? (text.drop p) = some name) :
    ∃ first stop paren, DeclaredAt text p first stop paren := by
  unfold nameHere? at h
  split at h
  · rename_i rest hdrop
    have hchar {i : Nat} {c : Char} (hi : (text.drop p)[i]? = some c) : text[p + i]? = some c := by
      rwa [List.getElem?_drop] at hi
    have hrest : rest = text.drop (p + 3) := by rw [← List.drop_drop, hdrop]; rfl
    obtain ⟨gap, hgap, hblank, hfirst⟩ := exists_stretch_takeWhile isBlank text (p + 3)
    obtain ⟨width, hwidth, hword, hstop⟩ := exists_stretch_takeWhile isWord text (p + 3 + gap)
    obtain ⟨room, -, hspace, hparen⟩ := exists_stretch_takeWhile isBlank text (p + 3 + gap + width)
    -- The runs that the scanner takes are those of the declaration.
    rw [hrest, hfirst, hstop, hparen] at h
    obtain ⟨hopen, -⟩ := Option.ite_none_right_eq_some.mp h
    simp only [List.head?_drop, Bool.and_eq_true, Option.any_eq_true, Bool.not_eq_true', beq_iff_eq]
      at hopen
    obtain ⟨⟨⟨c, hc, hcblank⟩, hne⟩, hopening⟩ := hopen
    have hgapPos : 0 < gap := by
      rw [← hgap, List.length_pos_iff]
      rw [drop_of_getElem? hc, List.takeWhile_cons_of_pos hcblank]
      exact List.cons_ne_nil _ _
    have hwidthPos : 0 < width := by
      rw [← hwidth, List.length_pos_iff]
      simpa using hne
    have hkeyword : text[p]? = some 'd' ∧ text[p + 1]? = some 'e' ∧ text[p + 2]? = some 'f' :=
      ⟨hchar (i := 0) (by rw [hdrop]; rfl), hchar (i := 1) (by rw [hdrop]; rfl),
        hchar (i := 2) (by rw [hdrop]; rfl)⟩
    refine ⟨p + 3 + gap, p + 3 + gap + width, p + 3 + gap + width + room, ?_⟩
    exact {
      boundary := by rw [boundary_eq_not_wordBefore hkeyword.1 (by decide), hbefore]; rfl
      keyword := hkeyword
      gap := ⟨by omega, hblank⟩
      name := ⟨by omega, hword⟩
      room := ⟨by omega, hspace⟩
      opening := hopening }
  · cases h

def nameFrom (text : List Char) (p : Nat) : List Char :=
  firstName (wordBefore false text.toArray p) (text.drop p)

theorem nameFrom_of_lt (hp : p < text.length) : nameFrom text p =
    (if wordBefore false text.toArray p then none else nameHere? (text.drop p)).getD
      (nameFrom text (p + 1)) := by
  have hword : wordBefore false text.toArray (p + 1) = isWord text[p] := by
    simp [wordBefore, wordAt, hp, Category.holds]
  rw [nameFrom, nameFrom, hword, List.drop_eq_getElem_cons hp, firstName]

theorem nameFrom_of_declaredAt (h : DeclaredAt text p first stop paren) :
    nameFrom text p = slice text first stop := by
  have hbefore : wordBefore false text.toArray p = false := by
    have hboundary := h.boundary
    rwa [boundary_eq_not_wordBefore h.keyword.1 (by decide), Bool.not_eq_true'] at hboundary
  have hp := (List.getElem?_eq_some_iff.mp h.keyword.1).1
  rw [nameFrom_of_lt hp, hbefore, nameHere?_of_declaredAt h]
  rfl

theorem nameFrom_of_none {q : Nat} (hle : p ≤ q) (hq : q ≤ text.length)
    (hnone : ∀ r, p ≤ r → r < q → ∀ first stop paren, ¬ DeclaredAt text r first stop paren) :
    nameFrom text p = nameFrom text q := by
  obtain ⟨n, rfl⟩ := Nat.exists_eq_add_of_le hle
  induction n generalizing p with
  | zero => rfl
  | succ n ih =>
    -- A name that is read at `p` would be declared there.
    have hshift : p + (n + 1) = p + 1 + n := by omega
    have hlater := ih (Nat.le_add_right (p + 1) n) (hshift ▸ hq)
      fun r hr hr' => hnone r (by omega) (by omega)
    rw [nameFrom_of_lt (by omega), hshift, ← hlater]
    cases hbefore : wordBefore false text.toArray p with
    | true => rfl
    | false =>
      cases hhere : nameHere? (text.drop p) with
      | none => rfl
      | some name =>
        obtain ⟨first, stop, paren, hat⟩ := exists_declaredAt_of_nameHere? hbefore hhere
        exact absurd hat (hnone p (Nat.le_refl p) (by omega) first stop paren)

variable {rules : DeclarationRules}

theorem IsDefault.declaredName_eq (h : rules.IsDefault) (line : String) :
    rules.declaredName line = String.ofList (firstName false line.toList) := by
  have hnone {p q : Nat} (hmatch : defaultNode.matchAt line.toList.toArray (false && q == p) q = none)
      (first stop paren : Nat) : ¬ DeclaredAt line.toList q first stop paren := by
    intro hat
    rw [Bool.false_and, Node.matchAt_eq_none_iff] at hmatch
    have hmem := mem_ends_defaultNode.mpr ⟨first, stop, paren, hat, rfl⟩
    rw [hmatch] at hmem
    cases hmem
  have hstart : firstName false line.toList = nameFrom line.toList 0 := rfl
  cases hsearch : defaultNode.search line.toList.toArray false 0 with
  | none =>
    rw [h.declaredName_of_search_none hsearch, hstart,
      nameFrom_of_none (Nat.zero_le _) (Nat.le_refl line.toList.length), nameFrom, List.drop_length]
    · rfl
    · intro q hq hq'
      exact hnone (Node.search_eq_none hsearch hq (by rw [List.size_toArray]; omega))
  | some found =>
    obtain ⟨first, stop, paren, hat, hname⟩ := h.declaredName_of_search hsearch
    obtain ⟨hle, hsize, -, hbefore⟩ := Node.search_eq_some hsearch
    rw [hname, hstart, nameFrom_of_none hle (by simpa using hsize), nameFrom_of_declaredAt hat]
    exact fun q hq hq' => hnone (hbefore q hq hq')

example : firstName false "xdef a() def def b ()".toList = "b".toList := by decide

def digit : CharTest := .oneOf .exact false [.category .digit false false]

@[simp] theorem digit_admits : digit.admits = isDecimal := by
  funext c
  simp [digit, CharTest.admits, Folding.fold, ClassItem.holds, Category.holds]

def numberNode : Node :=
  .inOrder (['t', 'e', 's', 't', '_'].map (fun c => .one (.exactly c)) ++
    [.capture 1 (.inOrder [.many .greedy 1 none digit]), .one (.exactly '_')])

def constructorNode : Node :=
  .inOrder (['_', '_', 'i', 'n', 'i', 't', '_', '_'].map (fun c => .one (.exactly c)) ++
    [.anchor .lastLineEnd])

def standard : DeclarationRules where
  pattern := ⟨defaultPattern, defaultNode, [("name", 1)]⟩
  ignored := [⟨"^test_(\\d+)_", .seq (.anchor .textStart) numberNode, []⟩,
    ⟨"^__init__$", .seq (.anchor .textStart) constructorNode, []⟩]

theorem compile_default : compile defaultPattern defaultIgnored = .ok standard := rfl

/-- The name of a constructor or of a numbered test method: `test_`, digits, an underscore. -/
def isFormal : List Char → Bool
  | 't' :: 'e' :: 's' :: 't' :: '_' :: rest =>
    !(rest.takeWhile isDecimal).isEmpty && (rest.dropWhile isDecimal).head? == some '_'
  | name => name == "__init__".toList

theorem search_textStart_iff {text : Array Char} {node : Node} :
    ((Node.seq (.anchor .textStart) node).search text false 0).isSome = true ↔
      ∃ s, s ∈ node.ends text { pos := 0 } := by
  constructor
  · intro h
    obtain ⟨found, hfound⟩ := Option.isSome_iff_exists.mp h
    obtain ⟨s, hs, hfinal⟩ := mem_ends_seq.mp (Node.mem_ends_of_search hfound)
    obtain ⟨hstart, rfl⟩ := mem_ends_anchor.mp hs
    have hzero : found.start = 0 := beq_iff_eq.mp hstart
    rw [hzero] at hfinal
    exact ⟨_, hfinal⟩
  · rintro ⟨s, hs⟩
    have hmem : s ∈ (Node.seq (.anchor .textStart) node).ends text { pos := 0 } :=
      mem_ends_seq.mpr ⟨_, mem_ends_anchor.mpr ⟨rfl, rfl⟩, hs⟩
    obtain ⟨found, hfound⟩ := Node.exists_search_of_ends hmem (Nat.zero_le _)
    rw [hfound]
    rfl

theorem exists_ends_numberNode_iff :
    (∃ s, s ∈ numberNode.ends name.toArray { pos := 0 }) ↔
      slice name 0 5 = ['t', 'e', 's', 't', '_'] ∧ ∃ n, 1 ≤ n ∧
        Stretch isDecimal name.toArray 5 (5 + n) ∧ name[5 + n]? = some '_' := by
  rw [numberNode, ends_spelled]
  simp only [List.length_cons, List.length_nil, Nat.zero_add]
  split
  · rename_i hspelled
    simp only [hspelled, Node.inOrder, List.foldr_cons, List.foldr_nil, mem_ends_seq, mem_ends_one,
      mem_ends_greedy, mem_ends_capture, mem_ends_empty, List.getElem?_toArray, State.enter,
      State.leave, digit_admits, exists_exactly_iff, true_and]
    constructor
    · rintro ⟨_, _, ⟨_, ⟨_, ⟨n, hn, hdigits, rfl⟩, rfl⟩, rfl⟩, _, ⟨hend, rfl⟩, rfl⟩
      exact ⟨n, hn, hdigits, hend⟩
    · rintro ⟨n, hn, hdigits, hend⟩
      exact ⟨_, _, ⟨_, ⟨_, ⟨n, hn, hdigits, rfl⟩, rfl⟩, rfl⟩, _, ⟨hend, rfl⟩, rfl⟩
  · rename_i hspelled
    simp [hspelled]

/-- Without a line feed at its end, the last line of a name ends where the name does. -/
theorem exists_ends_constructorNode_iff (hflat : '\n' ∉ name) :
    (∃ s, s ∈ constructorNode.ends name.toArray { pos := 0 }) ↔ name = "__init__".toList := by
  rw [constructorNode, ends_spelled]
  simp only [List.length_cons, List.length_nil, Nat.zero_add]
  constructor
  · rintro ⟨s, hs⟩
    split at hs
    · rename_i hspelled
      obtain ⟨_, hlast, -⟩ := mem_ends_seq.mp hs
      have hend := (mem_ends_anchor.mp hlast).1
      simp only [Anchor.holds, List.size_toArray, List.getElem?_toArray, Bool.or_eq_true,
        Bool.and_eq_true, beq_iff_eq] at hend
      rcases hend with hlength | ⟨-, hfeed⟩
      · rw [slice, hlength, List.take_length] at hspelled
        exact hspelled
      · exact absurd (List.mem_of_getElem? hfeed) hflat
    · cases hs
  · rintro rfl
    refine ⟨{ pos := 8 }, ?_⟩
    decide

theorem digits_behind_iff : (((name.drop 5).takeWhile isDecimal ≠ []) ∧
    ((name.drop 5).dropWhile isDecimal).head? = some '_') ↔ ∃ n, 1 ≤ n ∧
      Stretch isDecimal name.toArray 5 (5 + n) ∧ name[5 + n]? = some '_' := by
  constructor
  · rintro ⟨hsome, hend⟩
    obtain ⟨n, hn, hdigits, hbehind⟩ := exists_stretch_takeWhile isDecimal name 5
    rw [hbehind, List.head?_drop] at hend
    exact ⟨n, by rw [← hn]; exact List.length_pos_iff.mpr hsome, hdigits, hend⟩
  · rintro ⟨n, hn, hdigits, hend⟩
    obtain ⟨hrun, hbehind⟩ := dropWhile_of_stretch (Nat.le_add_right 5 n) hdigits (by
      rw [hend]
      rintro c ⟨⟩
      decide)
    have hlt := (List.getElem?_eq_some_iff.mp hend).1
    have hlength : (slice name 5 (5 + n)).length = n := by
      rw [slice_add, List.length_take, List.length_drop]
      omega
    rw [hrun, hbehind, List.head?_drop]
    exact ⟨List.ne_nil_of_length_pos (by omega), hend⟩

theorem isFormal_iff : isFormal name = true ↔ name = "__init__".toList ∨
    slice name 0 5 = ['t', 'e', 's', 't', '_'] ∧ ∃ n, 1 ≤ n ∧
      Stretch isDecimal name.toArray 5 (5 + n) ∧ name[5 + n]? = some '_' := by
  rw [← digits_behind_iff]
  unfold isFormal
  split
  · simp [slice]
  · rename_i hnot
    have hother : slice name 0 5 ≠ ['t', 'e', 's', 't', '_'] := by
      intro hspelled
      have hsplit := (List.take_append_drop 5 name).symm
      exact hnot _ (hsplit.trans (congrArg (· ++ name.drop 5) hspelled))
    simp [hother]

theorem isIgnored_standard (hflat : '\n' ∉ name) :
    standard.isIgnored (String.ofList name) = isFormal name := by
  rw [Bool.eq_iff_iff, isFormal_iff, ← exists_ends_constructorNode_iff hflat,
    ← exists_ends_numberNode_iff, ← search_textStart_iff, ← search_textStart_iff]
  simp [isIgnored, standard, Pattern.occursIn, Pattern.search, or_comm]

/-- The routine that lines name, the nearest of them first: that of the first line that declares one,
without a name if it is formal. -/
def routineIn : List (List Char) → List Char
  | [] => []
  | line :: above =>
    let name := firstName false line
    if name.isEmpty then routineIn above else if isFormal name then [] else name

theorem standard_isDefault : standard.IsDefault := rfl

theorem newline_not_mem_firstName (line : List Char) : '\n' ∉ firstName false line := by
  intro hmem
  have heq := standard_isDefault.declaredName_eq (String.ofList line)
  rw [String.toList_ofList] at heq
  have hname : standard.declaredName (String.ofList line) ≠ "" := by
    rw [heq]
    simpa using List.ne_nil_of_mem hmem
  obtain ⟨p, first, stop, paren, hat, hslice⟩ := standard_isDefault.exists_declaredAt hname
  rw [heq, String.ofList_inj] at hslice
  rw [hslice] at hmem
  have hword := hat.isWord_of_mem_name hmem
  revert hword
  decide

/-- The search for the nearest name passes lines without one and stops at a formal name. -/
theorem enclosing_standard (text : List Char) :
    standard.enclosing text = String.ofList (routineIn (lines text).reverse) := by
  rw [enclosing, nearestName]
  generalize (lines text).reverse = above
  induction above with
  | nil => simp [routineIn]
  | cons line above ih =>
    have hline : standard.nameOnLine line = String.ofList (firstName false line) := by
      rw [standard_isDefault.nameOnLine_eq, standard_isDefault.declaredName_eq, String.toList_ofList]
    rw [List.findSome?_cons, hline, routineIn]
    by_cases hname : firstName false line = []
    · simpa [hname] using ih
    · simp only [beq_iff_eq, String.ofList_eq_empty_iff, hname, ↓reduceIte, Option.getD_some,
        isIgnored_standard (newline_not_mem_firstName line), List.isEmpty_iff, apply_ite String.ofList]

/-- The standard patterns name the routines that a plain scanner names. -/
theorem standard_names_by_scanner : ∃ rules, compile defaultPattern defaultIgnored = .ok rules ∧
    (∀ line, rules.declaredName line = String.ofList (firstName false line.toList)) ∧
    ∀ text, rules.enclosing text = String.ofList (routineIn (lines text).reverse) :=
  ⟨standard, compile_default, standard_isDefault.declaredName_eq, enclosing_standard⟩

end DeclarationRules
end TestReach
