import TestReach.Proofs.Pattern.Literal
import TestReach.Proofs.Pattern.Search
import TestReach.Proofs.Text
import TestReach.Term

namespace TestReach

namespace Text

/-- `name` stands at position `p` of `text`, and no word character stands before or after it. -/
structure WordAt (name text : List Char) (p : Nat) : Prop where
  spelled : slice text p (p + name.length) = name
  before : p = 0 ∨ ∀ c ∈ text[p - 1]?, isWord c = false
  after : ∀ c ∈ text[p + name.length]?, isWord c = false

theorem wordAt_iff {name text : List Char} {p : Nat} : WordAt name text p ↔
    slice text p (p + name.length) = name ∧ (p = 0 ∨ text[p - 1]?.all (! isWord ·) = true) ∧
      text[p + name.length]?.all (! isWord ·) = true := by
  simp only [Option.all_eq_true, Bool.not_eq_true']
  exact ⟨fun h => ⟨h.spelled, h.before, h.after⟩, fun h => ⟨h.1, h.2.1, h.2.2⟩⟩

instance (name text : List Char) (p : Nat) : Decidable (WordAt name text p) :=
  decidable_of_iff _ wordAt_iff.symm

namespace WordAt

variable {name text : List Char} {p q : Nat}

theorem add_length_le (h : WordAt name text p) (hne : name ≠ []) : p + name.length ≤ text.length :=
  add_length_le_of_slice h.spelled hne

/-- A word that begins behind another place where it stands begins behind its end there: the
characters of the word keep it from beginning inside. -/
theorem add_length_le_of_lt (h : WordAt name text p) (h' : WordAt name text q)
    (hword : ∀ c ∈ name, isWord c = true) (hlt : p < q) : p + name.length ≤ q := by
  by_contra hinside
  have hi : q - 1 - p < name.length := by omega
  have hchar := getElem?_of_slice h.spelled hi
  rw [show p + (q - 1 - p) = q - 1 by omega, List.getElem?_eq_getElem hi] at hchar
  rcases h'.before with hzero | hbefore
  · omega
  · have hnot := hbefore _ hchar
    rw [hword _ (List.getElem_mem hi)] at hnot
    cases hnot

theorem of_line {before line after : List Char} (h : WordAt name line p) (hne : name ≠ [])
    (hbetween : LineBetween text before line after) : WordAt name text (before.length + p) where
  spelled := by rw [hbetween.slice_add (h.add_length_le hne), h.spelled]
  before := by
    cases p with
    | zero =>
      rw [Nat.add_zero, List.length_eq_zero_iff]
      refine or_iff_not_imp_left.mpr fun hbefore c hc => ?_
      rw [hbetween.eq_newline_of_before hbefore hc]
      decide
    | succ p =>
      have hle := h.add_length_le hne
      rw [← Nat.add_assoc, Nat.add_sub_cancel, hbetween.getElem?_add (by omega)]
      exact Or.inr (h.before.resolve_left (Nat.succ_ne_zero p))
  after := by
    intro c hc
    rw [Nat.add_assoc] at hc
    rcases Nat.eq_or_lt_of_le (h.add_length_le hne) with hend | hinside
    · rw [hend] at hc
      rw [hbetween.eq_newline_of_after hc]
      decide
    · rw [hbetween.getElem?_add hinside] at hc
      exact h.after c hc

end WordAt

theorem not_isWord_of_meta {c : Char} (h : c ∈ Pattern.metaChars) : isWord c = false := by
  have hall : Pattern.metaChars.all (! isWord ·) = true := by decide
  simpa using List.all_eq_true.mp hall c h

end Text

namespace Pattern

def wholeWordNode (name : List Char) : Node :=
  .inOrder (.anchor (.wordBoundary false false) ::
    (name.map fun c => .one (.exactly c)) ++ [.anchor (.wordBoundary false false)])

theorem readSymbols_boundary {b : Builder} {rest : List Char} {pos : Nat} (hmode : b.mode = {})
    (hrest : rest ≠ ['\\']) (fuel : Nat) :
    readSymbols (fuel + 1) b ⟨'\\' :: 'b' :: rest, pos⟩ =
      readSymbols fuel (b.push (.anchor (.wordBoundary false false))) ⟨rest, pos + 2⟩ := by
  have hskip : Reader.skip ⟨'\\' :: 'b' :: rest, pos⟩ (.escaped 'b') = .ok ⟨rest, pos + 2⟩ := by
    simp [Reader.skip, Symbol.width, hrest]
  have hstep : b.step ⟨'\\' :: 'b' :: rest, pos⟩ (.escaped 'b') =
      .ok (some (b.push (.anchor (.wordBoundary false false)), ⟨rest, pos + 2⟩)) := by
    simp only [Builder.step, hskip, bind, Except.bind, Builder.read, Builder.escape, hmode]
    rfl
  rw [readSymbols, Reader.peek?]
  simp only [hstep, bind, Except.bind]

theorem parse_wholeWord {name : List Char} (hname : ∀ c ∈ name, c ∉ metaChars) :
    parse ('\\' :: 'b' :: (name ++ ['\\', 'b'])) = .ok ⟨wholeWordNode name, []⟩ := by
  have hlength : ('\\' :: 'b' :: (name ++ ['\\', 'b'])).length + 1 = name.length + 4 + 1 := by simp
  have hrest : name ++ ['\\', 'b'] ≠ ['\\'] := fun h => by simpa using congrArg List.length h
  have hnode : wholeWordNode name = .inOrder ((.anchor (.wordBoundary false false) ::
      (((name.map fun c => .atom (.one (.exactly c))).reverse ++
        [.anchor (.wordBoundary false false)]) : List Piece)).reverse.map Piece.node) := by
    simp [wholeWordNode, Piece.node, Function.comp_def]
  rw [hnode]
  refine parse_of_readSymbols (0 + 2 + name.length + 2) (by simp) ?_ ?_
  · rw [hlength, readSymbols_boundary rfl hrest, readSymbols_plain rfl hname (by simp),
      readSymbols_boundary rfl (by simp)]
    rfl
  · intro piece hpiece
    simp only [List.mem_cons, List.mem_append, List.mem_reverse, List.mem_map, List.not_mem_nil,
      or_false] at hpiece
    rcases hpiece with rfl | ⟨c, -, rfl⟩ | rfl <;> rfl

variable {name text : List Char} {p : Nat}

theorem ends_spelled (name text : List Char) (rest : List Node) (s : State) :
    (Node.inOrder (name.map (fun c => .one (.exactly c)) ++ rest)).ends text.toArray s =
      if Text.slice text s.pos (s.pos + name.length) = name then
        (Node.inOrder rest).ends text.toArray { s with pos := s.pos + name.length }
      else [] := by
  induction name generalizing s with
  | nil => simp
  | cons c name ih =>
    have hcons : (Node.inOrder ((c :: name).map (fun c => .one (.exactly c)) ++ rest)).ends
        text.toArray s = ((Node.one (.exactly c)).ends text.toArray s).flatMap
          ((Node.inOrder (name.map (fun c => .one (.exactly c)) ++ rest)).ends text.toArray) := rfl
    rw [hcons, Node.ends, List.getElem?_toArray, List.length_cons]
    cases hfirst : text[s.pos]? with
    | none =>
      have hdrop : text.drop s.pos = [] := List.drop_eq_nil_of_le (List.getElem?_eq_none_iff.mp hfirst)
      simp [Text.slice_add, hdrop]
    | some d =>
      rw [Text.slice_succ hfirst]
      by_cases hd : d = c
      · simp [CharTest.admits, hd, ih, Nat.add_assoc, Nat.add_comm 1]
      · simp [CharTest.admits, hd]

theorem wordAt_eq_false_iff :
    wordAt false text.toArray p = false ↔ ∀ c ∈ text[p]?, Text.isWord c = false := by
  rw [wordAt, List.getElem?_toArray]
  cases text[p]? with
  | none => simp
  | some c => simp [Category.holds]

theorem wordAt_of_isWord {c : Char} (hc : text[p]? = some c) (hword : Text.isWord c = true) :
    wordAt false text.toArray p = true := by
  rw [wordAt, List.getElem?_toArray, hc]
  exact hword

theorem boundary_before_word {c : Char} (hc : text[p]? = some c) (hword : Text.isWord c = true) :
    (Anchor.wordBoundary false false).holds text.toArray p = true ↔
      p = 0 ∨ ∀ d ∈ text[p - 1]?, Text.isWord d = false := by
  obtain ⟨hp, -⟩ := List.getElem?_eq_some_iff.mp hc
  have hsize : text ≠ [] := List.ne_nil_of_length_pos (by omega)
  have hat := wordAt_of_isWord hc hword
  cases p with
  | zero => simp [Anchor.holds, hsize, wordBefore, hat]
  | succ q =>
    rw [Nat.add_sub_cancel, ← wordAt_eq_false_iff]
    simp [Anchor.holds, hsize, wordBefore, hat]

theorem boundary_after_word {c : Char} (hc : text[p]? = some c) (hword : Text.isWord c = true) :
    (Anchor.wordBoundary false false).holds text.toArray (p + 1) = true ↔
      ∀ d ∈ text[p + 1]?, Text.isWord d = false := by
  obtain ⟨hp, -⟩ := List.getElem?_eq_some_iff.mp hc
  have hsize : text ≠ [] := List.ne_nil_of_length_pos (by omega)
  have hbefore : wordBefore false text.toArray (p + 1) = true := wordAt_of_isWord hc hword
  rw [← wordAt_eq_false_iff]
  simp [Anchor.holds, hsize, hbefore]

theorem ends_wholeWordNode (hne : name ≠ []) (hword : ∀ c ∈ name, Text.isWord c = true) (p : Nat) :
    (wholeWordNode name).ends text.toArray { pos := p } =
      if Text.WordAt name text p then [{ pos := p + name.length }] else [] := by
  have hnode (s : State) : (wholeWordNode name).ends text.toArray s =
      ((Node.anchor (.wordBoundary false false)).ends text.toArray s).flatMap
        ((Node.inOrder (name.map (fun c => .one (.exactly c)) ++
          [.anchor (.wordBoundary false false)])).ends text.toArray) := rfl
  have hlast (s : State) : (Node.inOrder [.anchor (.wordBoundary false false)]).ends text.toArray s =
      if (Anchor.wordBoundary false false).holds text.toArray s.pos then [s] else [] := by
    simp only [Node.inOrder, List.foldr_cons, List.foldr_nil, Node.ends]
    split <;> simp
  rw [hnode, Node.ends]
  by_cases hspelled : Text.slice text p (p + name.length) = name
  · obtain ⟨n, hn⟩ : ∃ n, name.length = n + 1 :=
      Nat.exists_eq_succ_of_ne_zero (List.length_eq_zero_iff.not.mpr hne)
    -- The first and the last character of the name tell what the boundaries ask for.
    have hchar (i : Nat) (hi : i < name.length) : text[p + i]? = some name[i] := by
      rw [Text.getElem?_of_slice hspelled hi, List.getElem?_eq_getElem hi]
    have hfirst := boundary_before_word (hchar 0 (by omega)) (hword _ (List.getElem_mem _))
    have hend := boundary_after_word (hchar n (by omega)) (hword _ (List.getElem_mem _))
    have hiff : Text.WordAt name text p ↔
        (Anchor.wordBoundary false false).holds text.toArray p = true ∧
          (Anchor.wordBoundary false false).holds text.toArray (p + name.length) = true := by
      rw [hn, ← Nat.add_assoc, hend, ← Nat.add_zero p, hfirst, Nat.add_zero, Nat.add_assoc, ← hn]
      exact ⟨fun h => ⟨h.before, h.after⟩, fun h => ⟨hspelled, h.1, h.2⟩⟩
    by_cases hstart : (Anchor.wordBoundary false false).holds text.toArray p = true
    · simp [hstart, ends_spelled, hspelled, hlast, hiff]
    · simp [hstart, hiff]
  · have hnot : ¬ Text.WordAt name text p := fun h => hspelled h.spelled
    rw [if_neg hnot]
    split
    · simp [ends_spelled, hspelled]
    · rfl

theorem matchAt_wholeWordNode (hne : name ≠ []) (hword : ∀ c ∈ name, Text.isWord c = true)
    (nonEmpty : Bool) (p : Nat) : (wholeWordNode name).matchAt text.toArray nonEmpty p =
      if decide (Text.WordAt name text p) then some ⟨p, { pos := p + name.length }⟩ else none := by
  have hlonger : (p + name.length == p) = false := by simpa using hne
  rw [Node.matchAt_eq_find?, ends_wholeWordNode hne hword]
  by_cases hat : Text.WordAt name text p <;> simp [hat, hlonger]

theorem spans_wholeWordNode (hne : name ≠ []) (hword : ∀ c ∈ name, Text.isWord c = true) :
    (wholeWordNode name).spans text.toArray =
      ((List.range text.length).filter (Text.WordAt name text ·)).map
        fun p => ⟨p, p + name.length⟩ := by
  refine Node.spans_eq_filter (List.length_pos_iff.mpr hne) (matchAt_wholeWordNode hne hword) ?_ ?_
  · intro p hp
    exact (of_decide_eq_true hp).add_length_le hne
  · intro p q hp hq
    exact (of_decide_eq_true hp).add_length_le_of_lt (of_decide_eq_true hq) hword

end Pattern

namespace Term

theorem wholeWord_of_plain {name : String} (hname : ∀ c ∈ name.toList, c ∉ Pattern.metaChars) :
    wholeWord? name = .ok (.pattern ⟨"\\b" ++ name ++ "\\b", Pattern.wholeWordNode name.toList, []⟩) := by
  have hchars : ("\\b" ++ name ++ "\\b").toList = '\\' :: 'b' :: (name.toList ++ ['\\', 'b']) := by
    simp
  have hcompile : Pattern.compile ("\\b" ++ name ++ "\\b") =
      .ok ⟨"\\b" ++ name ++ "\\b", Pattern.wholeWordNode name.toList, []⟩ := by
    rw [Pattern.compile, hchars, Pattern.parse_wholeWord hname]
    rfl
  have hempty : ("\\b" ++ name ++ "\\b").isEmpty = false := by
    simp
  rw [wholeWord?, ofPattern?, hempty, hcompile]
  rfl

theorem findAll_wholeWord {name : String} (hne : name ≠ "")
    (hword : ∀ c ∈ name.toList, Text.isWord c = true) :
    ∃ term, wholeWord? name = .ok term ∧ ∀ source, term.findAll source =
      ((List.range source.toList.length).filter (Text.WordAt name.toList source.toList ·)).map
        fun p => ⟨p, p + name.toList.length⟩ := by
  have hplain : ∀ c ∈ name.toList, c ∉ Pattern.metaChars := by
    intro c hc hmeta
    have hnot := Text.not_isWord_of_meta hmeta
    rw [hword c hc] at hnot
    cases hnot
  refine ⟨_, wholeWord_of_plain hplain, fun source => ?_⟩
  exact Pattern.spans_wholeWordNode (by simpa using hne) hword

end Term
end TestReach
