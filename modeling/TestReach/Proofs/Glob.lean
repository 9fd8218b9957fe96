import Mathlib.Data.List.Infix
import TestReach.Glob

namespace TestReach.Glob

variable {pieces : List Piece} {text name ending : List Char}

theorem mem_endings : ending ∈ endings text ↔ ending <:+ text := by
  induction text with
  | nil => simp [endings]
  | cons c text ih => rw [endings, List.mem_cons, List.suffix_cons_iff, ih]

theorem matchesName_anything : matchesName (.anything :: pieces) name = true ↔
    ∃ ending, ending <:+ name ∧ matchesName pieces ending = true := by
  simp [matchesName, mem_endings]

theorem matchesName_exactly : matchesName (text.map .exactly) name = true ↔ name = text := by
  induction text generalizing name with
  | nil => simp [matchesName]
  | cons c text ih =>
    cases name with
    | nil => simp [matchesName]
    | cons d name => simp [matchesName, Piece.admits, ih]

theorem matchesName_anything_exactly :
    matchesName (.anything :: text.map .exactly) name = true ↔ text <:+ name := by
  simp [matchesName_anything, matchesName_exactly]

theorem matchesName_cons {piece : Piece} (h : piece ≠ .anything) :
    matchesName (piece :: pieces) name = true ↔
      ∃ c rest, name = c :: rest ∧ piece.admits c = true ∧ matchesName pieces rest = true := by
  cases piece with
  | anything => exact absurd rfl h
  | anyChar => cases name <;> simp [matchesName]
  | oneOf negated ranges => cases name <;> simp [matchesName]
  | exactly d => cases name <;> simp [matchesName]

theorem isWild_eq_false : isWild text = false ↔ ∀ c ∈ text, c ≠ '*' ∧ c ≠ '?' ∧ c ≠ '[' := by
  simp [isWild, and_assoc]

theorem piecesFrom_of_plain (h : isWild text = false) {fuel : Nat} (hfuel : text.length ≤ fuel) :
    piecesFrom fuel text = text.map .exactly := by
  induction text generalizing fuel with
  | nil => cases fuel <;> rfl
  | cons c text ih =>
    obtain ⟨⟨hstar, hmark, hbracket⟩, htext⟩ := List.forall_mem_cons.mp (isWild_eq_false.mp h)
    cases fuel with
    | zero => cases hfuel
    | succ fuel =>
      have hrest := ih (isWild_eq_false.mpr htext) (Nat.le_of_succ_le_succ hfuel)
      simp [piecesFrom, hstar, hmark, hbracket, hrest]

theorem pieces_star (text : List Char) : Glob.pieces ('*' :: text) = .anything :: Glob.pieces text := by
  simp [Glob.pieces, piecesFrom]

theorem pieces_of_plain (h : isWild text = false) : Glob.pieces text = text.map .exactly :=
  piecesFrom_of_plain h le_rfl

theorem bracket_ne_anything (inside : List Char) : bracket inside ≠ .anything := by
  unfold bracket
  dsimp only
  split
  · split <;> exact Piece.noConfusion
  · exact Piece.noConfusion

theorem bracket_ne_exactly (inside : List Char) (c : Char) : bracket inside ≠ .exactly c := by
  unfold bracket
  dsimp only
  split
  · split <;> exact Piece.noConfusion
  · exact Piece.noConfusion

theorem length_lt_of_cutBracket? {inside rest : List Char}
    (h : cutBracket? text = some (inside, rest)) : rest.length < text.length := by
  unfold cutBracket? at h
  dsimp only at h
  split at h
  · rename_i c _ hdrop
    cases h
    have hsuffix : c :: rest <:+ text := hdrop ▸ List.drop_suffix _ _
    have hlength := hsuffix.length_le
    rwa [List.length_cons] at hlength
  · cases h

theorem piecesFrom_succ (fuel : Nat) (c : Char) (rest : List Char) :
    (c = '*' ∧ piecesFrom (fuel + 1) (c :: rest) = .anything :: piecesFrom fuel rest) ∨
    (c = '?' ∧ piecesFrom (fuel + 1) (c :: rest) = .anyChar :: piecesFrom fuel rest) ∨
    (∃ inside after, cutBracket? rest = some (inside, after) ∧
      piecesFrom (fuel + 1) (c :: rest) = bracket inside :: piecesFrom fuel after) ∨
    (c ≠ '*' ∧ piecesFrom (fuel + 1) (c :: rest) = .exactly c :: piecesFrom fuel rest) := by
  by_cases hstar : c = '*'
  · exact .inl ⟨hstar, by simp [piecesFrom, hstar]⟩
  by_cases hmark : c = '?'
  · exact .inr (.inl ⟨hmark, by simp [piecesFrom, hmark]⟩)
  refine .inr (.inr ?_)
  by_cases hbracket : c = '['
  · cases hcut : cutBracket? rest with
    | none => exact .inr ⟨hstar, by simp [piecesFrom, hbracket, hcut]⟩
    | some cut => exact .inl ⟨cut.1, cut.2, rfl, by simp [piecesFrom, hbracket, hcut]⟩
  · exact .inr ⟨hstar, by simp [piecesFrom, hstar, hmark, hbracket]⟩

def IsLiteral (pattern : List Char) : Prop :=
  Glob.pieces pattern = pattern.map .exactly

theorem star_not_mem_of_piecesFrom {fuel : Nat} (h : piecesFrom fuel text = text.map .exactly) :
    '*' ∉ text := by
  induction fuel generalizing text with
  | zero =>
    obtain rfl : text = [] := List.map_eq_nil_iff.mp h.symm
    exact List.not_mem_nil
  | succ fuel ih =>
    cases text with
    | nil => exact List.not_mem_nil
    | cons c rest =>
      obtain ⟨-, hpieces⟩ | ⟨-, hpieces⟩ | ⟨inside, after, -, hpieces⟩ | ⟨hstar, hpieces⟩ :=
        piecesFrom_succ fuel c rest
      · cases (List.cons.inj (hpieces.symm.trans h)).1
      · cases (List.cons.inj (hpieces.symm.trans h)).1
      · exact absurd (List.cons.inj (hpieces.symm.trans h)).1 (bracket_ne_exactly inside c)
      · have hrest := ih (List.cons.inj (hpieces.symm.trans h)).2
        rw [List.mem_cons, not_or]
        exact ⟨Ne.symm hstar, hrest⟩

theorem IsLiteral.star_not_mem (h : IsLiteral text) : '*' ∉ text :=
  star_not_mem_of_piecesFrom h

/-- A name that the pieces of a pattern match, not longer than the pattern and made of the characters
of another, which is the pattern itself only if its pieces stand for its characters. -/
structure Short (pieces : List Piece) (pattern name short : List Char) : Prop where
  matched : matchesName pieces short = true
  length_le : short.length ≤ pattern.length
  drawn : ∀ c ∈ short, c ∈ name ∨ c = 'x'
  literal : short = pattern → pieces = pattern.map .exactly

theorem Short.cons {piece : Piece} {after rest short : List Char} {c d e : Char}
    (h : Short pieces after name short) (hpiece : piece ≠ .anything) (hadmits : piece.admits d = true)
    (hdrawn : d = e ∨ d = 'x') (hafter : after.length ≤ rest.length)
    (hliteral : d :: short = c :: rest → piece :: pieces = (c :: rest).map .exactly) :
    Short (piece :: pieces) (c :: rest) (e :: name) (d :: short) where
  matched := (matchesName_cons hpiece).mpr ⟨d, short, rfl, hadmits, h.matched⟩
  length_le := Nat.succ_le_succ (h.length_le.trans hafter)
  drawn := by
    rw [List.forall_mem_cons, List.mem_cons]
    exact ⟨hdrawn.imp_left .inl, fun c hc => (h.drawn c hc).imp_left (List.mem_cons_of_mem e)⟩
  literal := hliteral

/-- With every name that a pattern matches there is a short one: where a star stands, nothing; for a
question mark, a letter; for a bracket, which is longer than what it stands for, the same as before. -/
theorem exists_short {fuel : Nat} (h : matchesName (piecesFrom fuel text) name = true) :
    ∃ short, Short (piecesFrom fuel text) text name short := by
  induction fuel generalizing text name with
  | zero =>
    refine ⟨[], rfl, Nat.zero_le _, by simp, ?_⟩
    rintro rfl
    rfl
  | succ fuel ih =>
    cases text with
    | nil => exact ⟨[], rfl, le_rfl, by simp, fun _ => rfl⟩
    | cons c rest =>
      -- A star, a question mark, a bracket, or a character that stands for itself.
      obtain ⟨-, hpieces⟩ | ⟨rfl, hpieces⟩ | ⟨inside, after, hcut, hpieces⟩ | ⟨-, hpieces⟩ :=
        piecesFrom_succ fuel c rest
      all_goals rw [hpieces] at h ⊢
      · obtain ⟨ending, hending, hmatch⟩ := matchesName_anything.mp h
        obtain ⟨short, hshort⟩ := ih hmatch
        have hlength := hshort.length_le
        refine ⟨short, ?_, Nat.le_succ_of_le hlength, ?_, ?_⟩
        · exact matchesName_anything.mpr ⟨short, List.suffix_rfl, hshort.matched⟩
        · exact fun d hd => (hshort.drawn d hd).imp_left fun hd => hending.subset hd
        · rintro rfl
          rw [List.length_cons] at hlength
          omega
      · obtain ⟨d, name, rfl, -, hmatch⟩ := (matchesName_cons Piece.noConfusion).mp h
        obtain ⟨short, hshort⟩ := ih hmatch
        refine ⟨'x' :: short, hshort.cons Piece.noConfusion rfl (.inr rfl) le_rfl ?_⟩
        intro hsame
        cases (List.cons.inj hsame).1
      · obtain ⟨d, name, rfl, hadmits, hmatch⟩ := (matchesName_cons (bracket_ne_anything inside)).mp h
        obtain ⟨short, hshort⟩ := ih hmatch
        have hafter := length_lt_of_cutBracket? hcut
        refine ⟨d :: short, hshort.cons (bracket_ne_anything inside) hadmits (.inl rfl) hafter.le ?_⟩
        intro hsame
        have hlength := hshort.length_le
        rw [(List.cons.inj hsame).2] at hlength
        omega
      · obtain ⟨d, name, rfl, hadmits, hmatch⟩ := (matchesName_cons Piece.noConfusion).mp h
        obtain ⟨short, hshort⟩ := ih hmatch
        refine ⟨d :: short, hshort.cons Piece.noConfusion hadmits (.inl rfl) le_rfl ?_⟩
        intro hsame
        rw [List.map_cons, hshort.literal (List.cons.inj hsame).2]

end TestReach.Glob
