import Mathlib.Data.List.Basic
import TestReach.Xml.Element

namespace TestReach.Xml.Element

variable {element root : Element} {children : List Element} {p q : List Nat} {i n : Nat}

def at? : Element → List Nat → Option Element
  | element, [] => some element
  | element, i :: position => (element.children[i]?).bind (·.at? position)

/-- Whether a position comes before another one: an element before those below it, and those below a
child before those below a later one. -/
def Precedes (p q : List Nat) : Prop :=
  List.Lex (· < ·) p q

theorem Precedes.asymm (h : Precedes p q) : ¬ Precedes q p :=
  List.lt_asymm h

mutual

def positions : Element → List (List Nat)
  | make _ _ _ children => [] :: positionsOf 0 children

/-- The positions of children and of all below them; the first child has number `i`. -/
def positionsOf (i : Nat) : List Element → List (List Nat)
  | [] => []
  | element :: rest => element.positions.map (i :: ·) ++ positionsOf (i + 1) rest

end

@[elab_as_elim]
theorem induction {motive : Element → Prop}
    (make : ∀ name attributes text children, (∀ child ∈ children, motive child) →
      motive (.make name attributes text children)) : ∀ element, motive element
  | .make name attributes text children =>
    make name attributes text children fun child _ => induction make child

theorem mem_positionsOf_iff : i :: p ∈ positionsOf n children ↔
    ∃ k child, i = n + k ∧ children[k]? = some child ∧ p ∈ child.positions := by
  induction children generalizing n with
  | nil => simp [positionsOf]
  | cons child children ih =>
    rw [positionsOf, List.mem_append, ih, List.mem_map]
    constructor
    · rintro (⟨p', hp, hsame⟩ | ⟨k, other, rfl, hother, hp⟩)
      · obtain ⟨rfl, rfl⟩ := List.cons.inj hsame
        exact ⟨0, child, rfl, rfl, hp⟩
      · exact ⟨k + 1, other, by omega, hother, hp⟩
    · rintro ⟨k, other, rfl, hother, hp⟩
      cases k with
      | zero =>
        obtain rfl := Option.some.inj hother
        exact Or.inl ⟨p, hp, rfl⟩
      | succ k => exact Or.inr ⟨k, other, by omega, hother, hp⟩

theorem ne_nil_of_mem_positionsOf (h : p ∈ positionsOf n children) : p ≠ [] := by
  induction children generalizing n with
  | nil => cases h
  | cons child children ih =>
    rw [positionsOf, List.mem_append, List.mem_map] at h
    rcases h with ⟨p', -, rfl⟩ | h
    · exact List.cons_ne_nil _ _
    · exact ih h

theorem mem_positions_iff : p ∈ element.positions ↔ ∃ found, element.at? p = some found := by
  induction p generalizing element with
  | nil =>
    cases element with
    | make => simp [positions, at?]
  | cons i p ih =>
    obtain ⟨name, attributes, text, children⟩ := element
    rw [positions, List.mem_cons, mem_positionsOf_iff]
    simp only [Nat.zero_add, at?, Element.children, Option.bind_eq_some_iff, ih]
    constructor
    · rintro (hnil | ⟨k, child, rfl, hchild, found, hfound⟩)
      · cases hnil
      · exact ⟨found, child, hchild, hfound⟩
    · rintro ⟨found, child, hchild, hfound⟩
      exact Or.inr ⟨i, child, rfl, hchild, found, hfound⟩

theorem map_positionsOf {before rest : List Element} (hsplit : element.children = before ++ rest)
    (h : ∀ child ∈ rest, child.positions.map child.at? = child.all.map some) :
    (positionsOf before.length rest).map element.at? = (allOf rest).map some := by
  induction rest generalizing before with
  | nil => rfl
  | cons child rest ih =>
    obtain ⟨hchild, hothers⟩ := List.forall_mem_cons.mp h
    have hsplit' : element.children = (before ++ [child]) ++ rest := by
      rw [hsplit, List.append_assoc, List.singleton_append]
    have hrest := ih hsplit' hothers
    rw [List.length_append, List.length_singleton] at hrest
    -- Below the first child of the rest a position goes on as one in that child.
    have hat : ∀ position, element.at? (before.length :: position) = child.at? position := by
      simp [at?, hsplit]
    rw [positionsOf, allOf, List.map_append, List.map_append, hrest, List.map_map, ← hchild]
    congr 1
    exact List.map_congr_left fun position _ => hat position

theorem map_positions (element : Element) : element.positions.map element.at? = element.all.map some := by
  induction element using induction with
  | make name attributes text children ih =>
    have hsplit : (make name attributes text children).children = [] ++ children := rfl
    have hchildren := map_positionsOf hsplit ih
    rw [List.length_nil] at hchildren
    rw [positions, all, List.map_cons, List.map_cons, hchildren, at?]

theorem pairwise_positionsOf (h : ∀ child ∈ children, child.positions.Pairwise Precedes) (n : Nat) :
    (positionsOf n children).Pairwise Precedes := by
  induction children generalizing n with
  | nil => exact List.Pairwise.nil
  | cons child children ih =>
    obtain ⟨hchild, hothers⟩ := List.forall_mem_cons.mp h
    rw [positionsOf, List.pairwise_append, List.pairwise_map]
    refine ⟨hchild.imp fun h => List.Lex.cons h, ih hothers (n + 1), ?_⟩
    rintro p hp q hq
    obtain ⟨p', -, rfl⟩ := List.mem_map.mp hp
    obtain ⟨i, q', rfl⟩ := List.exists_cons_of_ne_nil (ne_nil_of_mem_positionsOf hq)
    obtain ⟨k, -, rfl, -⟩ := mem_positionsOf_iff.mp hq
    exact List.Lex.rel (by omega)

theorem pairwise_positions (element : Element) : element.positions.Pairwise Precedes := by
  induction element using induction with
  | make name attributes text children ih =>
    rw [positions, List.pairwise_cons]
    refine ⟨fun p hp => ?_, pairwise_positionsOf ih 0⟩
    obtain ⟨i, p, rfl⟩ := List.exists_cons_of_ne_nil (ne_nil_of_mem_positionsOf hp)
    exact List.Lex.nil

/-- The last element of a document, in document order, among those that are chosen. -/
structure LastAt (root : Element) (chosen : Element → Prop) (p : List Nat) (element : Element) : Prop where
  at_eq : root.at? p = some element
  holds : chosen element
  last : ∀ q other, root.at? q = some other → chosen other → ¬ Precedes p q

theorem exists_lastAt_iff {chosen : Element → Prop} : (∃ p, LastAt root chosen p element) ↔
    chosen element ∧ ∃ after before, root.all.reverse = after ++ element :: before ∧
      ∀ other ∈ after, ¬ chosen other := by
  have hpairwise := pairwise_positions root
  have hall := map_positions root
  constructor
  · rintro ⟨p, hat, hholds, hlast⟩
    obtain ⟨before, after, hsplit⟩ := List.append_of_mem (mem_positions_iff.mpr ⟨element, hat⟩)
    rw [hsplit, List.pairwise_append, List.pairwise_cons] at hpairwise
    rw [hsplit, List.map_append, List.map_cons, hat] at hall
    obtain ⟨first, rest, hroot, hfirst, hrest⟩ := List.map_eq_append_iff.mp hall.symm
    obtain ⟨found, second, rfl, hfound, hsecond⟩ := List.map_eq_cons_iff.mp hrest
    obtain rfl := Option.some.inj hfound
    refine ⟨hholds, second.reverse, first.reverse, by rw [hroot]; simp, fun other hother hother' => ?_⟩
    -- What stands behind the element has a position behind its own.
    have hmem : some other ∈ after.map root.at? := by
      rw [← hsecond]
      exact List.mem_map_of_mem (List.mem_reverse.mp hother)
    obtain ⟨q, hq, hat'⟩ := List.mem_map.mp hmem
    exact hlast q other hat' hother' (hpairwise.2.1.1 q hq)
  · rintro ⟨hholds, second, first, hroot, hafter⟩
    rw [List.reverse_eq_iff.mp hroot, List.reverse_append, List.reverse_cons, List.append_assoc,
      List.singleton_append, List.map_append, List.map_cons] at hall
    obtain ⟨before, rest, hsplit, hbefore, hrest⟩ := List.map_eq_append_iff.mp hall
    obtain ⟨p, after, rfl, hat, hsecond⟩ := List.map_eq_cons_iff.mp hrest
    refine ⟨p, hat, hholds, fun q other hat' hother' hprecedes => ?_⟩
    rw [hsplit, List.pairwise_append, List.pairwise_cons] at hpairwise
    have hq := mem_positions_iff.mpr ⟨other, hat'⟩
    rw [hsplit, List.mem_append, List.mem_cons] at hq
    rcases hq with hq | rfl | hq
    · exact hprecedes.asymm (hpairwise.2.2 q hq p List.mem_cons_self)
    · exact hprecedes.asymm hprecedes
    · refine hafter other ?_ hother'
      have hmem : some other ∈ second.reverse.map some := by
        rw [← hsecond, ← hat']
        exact List.mem_map_of_mem hq
      simpa using hmem

end TestReach.Xml.Element
