import TestReach.Pattern
import TestReach.Proofs.Pattern.Ends

namespace TestReach.Pattern

/-- Characters that a pattern may not use for themselves outside a set. -/
def metaChars : List Char :=
  ['\\', '|', ')', '[', '?', '*', '+', '\x7b', '.', '(', '^', '$']

theorem Mode.literal_default (c : Char) : ({} : Mode).literal false c.toNat = .exactly c := by
  have hvalid : c.toNat.isValidChar := c.valid
  simp [literal, folding, Folding.fold, Folding.unfold, hvalid, Char.ofNat_toNat]

variable {b b' : Builder} {r next r' : Reader} {s : Symbol} {c : Char} {rest : List Char} {pos : Nat}

theorem Builder.read_plain {r : Reader} {start : Nat} (hmode : b.mode = {}) (hc : c ∉ metaChars) :
    b.read r start (.plain c) = .ok (b.atom (.one (.exactly c)), r) := by
  simp only [metaChars, List.mem_cons, List.not_mem_nil, or_false, not_or] at hc
  simp [read, hmode, Mode.literal_default, hc]
  rfl

theorem Reader.skip_plain (hrest : rest ≠ ['\\']) :
    Reader.skip ⟨c :: rest, pos⟩ (.plain c) = .ok ⟨rest, pos + 1⟩ := by
  simp [Reader.skip, Symbol.width, hrest]

theorem Reader.peek?_plain (hc : c ≠ '\\') : Reader.peek? ⟨c :: rest, pos⟩ = some (.plain c) := by
  unfold Reader.peek?
  split <;> simp_all

theorem readSymbols_of_read (hpeek : r.peek? = some s) (hbranch : s ≠ .plain '|')
    (hclose : s ≠ .plain ')') (hskip : r.skip s = .ok next)
    (hread : b.read next r.pos s = .ok (b', r')) (fuel : Nat) :
    readSymbols (fuel + 1) b r = readSymbols fuel b' r' := by
  have hstep : b.step r s = .ok (some (b', r')) := by
    unfold Builder.step
    split
    · exact absurd rfl hbranch
    · exact absurd rfl hclose
    · simp only [hskip, hread, bind, Except.bind]
      rfl
  rw [readSymbols, hpeek]
  simp only [hstep, bind, Except.bind]

theorem readSymbols_cons_plain (hmode : b.mode = {}) (hc : c ∉ metaChars) (hrest : rest ≠ ['\\'])
    (fuel : Nat) : readSymbols (fuel + 1) b ⟨c :: rest, pos⟩ =
      readSymbols fuel (b.atom (.one (.exactly c))) ⟨rest, pos + 1⟩ := by
  have hplain := hc
  simp only [metaChars, List.mem_cons, List.not_mem_nil, or_false, not_or] at hplain
  obtain ⟨hbackslash, hbranch, hclose, -⟩ := hplain
  exact readSymbols_of_read (Reader.peek?_plain hbackslash) (fun h => hbranch (Symbol.plain.inj h))
    (fun h => hclose (Symbol.plain.inj h)) (Reader.skip_plain hrest)
    (Builder.read_plain hmode hc) fuel

def Builder.spell (b : Builder) (text : List Char) : Builder :=
  { b with frame := { b.frame with
      pieces := (text.map fun c => .atom (.one (.exactly c))).reverse ++ b.frame.pieces } }

theorem Builder.spell_cons (b : Builder) (c : Char) (text : List Char) :
    b.spell (c :: text) = (b.atom (.one (.exactly c))).spell text := by
  simp [spell, atom, push, Frame.push]

theorem readSymbols_plain {text : List Char} (hmode : b.mode = {}) (htext : ∀ c ∈ text, c ∉ metaChars)
    (hrest : rest ≠ ['\\']) (fuel : Nat) :
    readSymbols (text.length + fuel) b ⟨text ++ rest, pos⟩ =
      readSymbols fuel (b.spell text) ⟨rest, pos + text.length⟩ := by
  induction text generalizing b pos with
  | nil => rw [List.length_nil, Nat.zero_add]; rfl
  | cons c text ih =>
    have hc := htext c List.mem_cons_self
    have hnext : text ++ rest ≠ ['\\'] := by
      intro h
      cases text with
      | nil => exact hrest h
      | cons d text =>
        obtain ⟨rfl, -⟩ := List.cons.inj h
        exact htext '\\' (by simp) (by simp [metaChars])
    rw [List.length_cons, Nat.add_right_comm, List.cons_append,
      readSymbols_cons_plain hmode hc hnext]
    have hnextMode : (b.atom (.one (.exactly c))).mode = {} := hmode
    rw [ih hnextMode fun d hd => htext d (List.mem_cons_of_mem _ hd), ← Builder.spell_cons,
      Nat.add_assoc, Nat.add_comm 1]

theorem Node.fault?_inOrder {nodes : List Node} {template : Bool}
    (h : ∀ node ∈ nodes, node.fault? template = none) : (inOrder nodes).fault? template = none := by
  induction nodes with
  | nil => rfl
  | cons node rest ih =>
    have hrest := ih fun node hnode => h node (List.mem_cons_of_mem _ hnode)
    have hstep : (inOrder (node :: rest)).fault? template =
        (node.fault? template <|> (inOrder rest).fault? template) := rfl
    rw [hstep, h node List.mem_cons_self, hrest]
    rfl

theorem parse_of_readSymbols {pattern : List Char} {pieces : List Piece} (pos : Nat)
    (hpattern : pattern ≠ ['\\'])
    (hread : readSymbols (pattern.length + 1) { frame := { opener := .whole, start := 0, mode := {} } }
      ⟨pattern, 0⟩ = .ok ({ frame := { opener := .whole, start := 0, mode := {}, pieces } }, ⟨[], pos⟩))
    (hfault : ∀ piece ∈ pieces, piece.node.fault? false = none) :
    parse pattern = .ok ⟨.inOrder (pieces.reverse.map Piece.node), []⟩ := by
  have hnode : (Node.inOrder (pieces.reverse.map Piece.node)).fault? false = none := by
    apply Node.fault?_inOrder
    intro node hnode
    obtain ⟨piece, hpiece, rfl⟩ := List.mem_map.mp hnode
    exact hfault piece (List.mem_reverse.mp hpiece)
  have hclose : ({ frame := { opener := .whole, start := 0, mode := {}, pieces } } : Builder).close =
      .inOrder (pieces.reverse.map Piece.node) := rfl
  rw [parse, if_neg (by simpa using hpattern)]
  simp only [hread, bind, Except.bind, Builder.finish, hclose]
  rw [show List.contains ([] : List Char) 't' = false from rfl, hnode]
  rfl

end TestReach.Pattern
