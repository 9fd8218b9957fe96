import TestReach.Proofs.Pattern.Literal

namespace TestReach.Pattern

variable {b b' : Builder} {r r' : Reader} {node : Node} {rest : List Char} {pos : Nat}

theorem readSymbols_dot (hmode : b.mode = {}) (hrest : rest ≠ ['\\']) (fuel : Nat) :
    readSymbols (fuel + 1) b ⟨'.' :: rest, pos⟩ =
      readSymbols fuel (b.atom (.one .notLineFeed)) ⟨rest, pos + 1⟩ := by
  refine readSymbols_of_read rfl (by decide) (by decide) (Reader.skip_plain hrest) ?_ fuel
  simp only [Builder.read, hmode]
  rfl

theorem readSymbols_lineEnd (hmode : b.mode = {}) (hrest : rest ≠ ['\\']) (fuel : Nat) :
    readSymbols (fuel + 1) b ⟨'$' :: rest, pos⟩ =
      readSymbols fuel (b.push (.anchor .lastLineEnd)) ⟨rest, pos + 1⟩ := by
  refine readSymbols_of_read rfl (by decide) (by decide) (Reader.skip_plain hrest) ?_ fuel
  simp only [Builder.read, hmode]
  rfl

theorem Builder.repeatLast_lazy (hrest : rest ≠ ['\\']) (start least : Nat) (most : Option Nat) :
    (b.atom node).repeatLast ⟨'?' :: rest, pos⟩ start least most =
      .ok (b.push (.repetition (.replicate .lazy least most node)), ⟨rest, pos + 1⟩) := by
  have haccept : Reader.accept ⟨'?' :: rest, pos⟩ '?' = .ok (true, ⟨rest, pos + 1⟩) := by
    have hsees : Reader.sees ⟨'?' :: rest, pos⟩ '?' = true := rfl
    simp only [Reader.accept, hsees, Reader.skip_plain hrest]
    rfl
  simp only [repeatLast, atom, push, Frame.push, haccept, bind, Except.bind]
  rfl

theorem Builder.repeatLast_greedy (hlazy : r.sees '?' = false) (hpossessive : r.sees '+' = false)
    (start least : Nat) (most : Option Nat) :
    (b.atom node).repeatLast r start least most =
      .ok (b.push (.repetition (.replicate .greedy least most node)), r) := by
  have haccept {c : Char} (h : r.sees c = false) : r.accept c = .ok (false, r) := by
    rw [Reader.accept, h]
    rfl
  simp only [repeatLast, atom, push, Frame.push, haccept hlazy, haccept hpossessive, bind, Except.bind,
    Bool.false_eq_true, if_false]
  rfl

theorem readSymbols_star (hmode : b.mode = {}) (hrest : rest ≠ ['\\'])
    (hrepeat : (b.atom node).repeatLast ⟨rest, pos + 1⟩ pos 0 none = .ok (b', r')) (fuel : Nat) :
    readSymbols (fuel + 1) (b.atom node) ⟨'*' :: rest, pos⟩ = readSymbols fuel b' r' := by
  refine readSymbols_of_read rfl (by decide) (by decide) (Reader.skip_plain hrest) ?_ fuel
  have hatom : (b.atom node).mode = {} := hmode
  simp only [Builder.read, hatom]
  exact hrepeat

end TestReach.Pattern
