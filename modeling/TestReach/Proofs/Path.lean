import TestReach.Path

namespace TestReach.Path

variable {p q : Path} {a b c : List String}

theorem namesPrecede_cons {x y : String} :
    namesPrecede (x :: a) (y :: b) = true ↔ x < y ∨ x = y ∧ namesPrecede a b = true := by
  simp only [namesPrecede, Bool.or_eq_true, decide_eq_true_eq, Bool.and_eq_true, beq_iff_eq]

theorem namesPrecede_total (a b : List String) :
    namesPrecede a b = true ∨ namesPrecede b a = true := by
  induction a generalizing b with
  | nil => exact Or.inl (by simp [namesPrecede])
  | cons x a ih =>
    cases b with
    | nil => exact Or.inr (by simp [namesPrecede])
    | cons y b =>
      rw [namesPrecede_cons, namesPrecede_cons]
      by_cases hlt : x < y
      · exact Or.inl (Or.inl hlt)
      by_cases hgt : y < x
      · exact Or.inr (Or.inl hgt)
      obtain rfl : x = y := String.le_antisymm hgt hlt
      exact (ih b).imp (fun h => Or.inr ⟨rfl, h⟩) fun h => Or.inr ⟨rfl, h⟩

theorem namesPrecede_trans (hab : namesPrecede a b = true) (hbc : namesPrecede b c = true) :
    namesPrecede a c = true := by
  induction a generalizing b c with
  | nil => simp [namesPrecede]
  | cons x a ih =>
    cases b with
    | nil => cases hab
    | cons y b =>
      cases c with
      | nil => cases hbc
      | cons z c =>
        rw [namesPrecede_cons] at hab hbc ⊢
        rcases hab with hxy | ⟨rfl, hab⟩
        · rcases hbc with hyz | ⟨rfl, -⟩
          · exact Or.inl (String.lt_trans hxy hyz)
          · exact Or.inl hxy
        · exact hbc.imp_right fun ⟨hxz, hbc⟩ => ⟨hxz, ih hab hbc⟩

theorem namesPrecede_antisymm (hab : namesPrecede a b = true) (hba : namesPrecede b a = true) :
    a = b := by
  induction a generalizing b with
  | nil =>
    cases b with
    | nil => rfl
    | cons y b => cases hba
  | cons x a ih =>
    cases b with
    | nil => cases hab
    | cons y b =>
      rw [namesPrecede_cons] at hab hba
      rcases hab with hxy | ⟨rfl, hab⟩
      · rcases hba with hyx | ⟨rfl, -⟩
        · exact absurd hyx (String.lt_asymm hxy)
        · exact absurd hxy (String.lt_irrefl _)
      · rcases hba with hxx | ⟨-, hba⟩
        · exact absurd hxx (String.lt_irrefl _)
        · rw [ih hab hba]

theorem precedes_total (p q : Path) : (precedes p q || precedes q p) = true := by
  rw [Bool.or_eq_true]
  exact namesPrecede_total _ _

theorem precedes_trans (p q r : Path) (hpq : precedes p q = true) (hqr : precedes q r = true) :
    precedes p r = true :=
  namesPrecede_trans hpq hqr

theorem precedes_antisymm (hroot : p.root = q.root) (hpq : precedes p q = true)
    (hqp : precedes q p = true) : p = q := by
  obtain ⟨root, names⟩ := p
  obtain ⟨root', names'⟩ := q
  obtain rfl : root = root' := hroot
  have hkeys := namesPrecede_antisymm hpq hqp
  by_cases hempty : root = ""
  · simpa [hempty] using hkeys
  · simpa [hempty] using hkeys

/-- Names that precede others come before them in the order of lists, or are the same. -/
theorem namesPrecede_iff : namesPrecede a b = true ↔ a < b ∨ a = b := by
  induction a generalizing b with
  | nil => cases b <;> simp [namesPrecede]
  | cons x a ih =>
    cases b with
    | nil => simp [namesPrecede]
    | cons y b =>
      rw [namesPrecede_cons, ih, List.cons_lt_cons_iff, List.cons_eq_cons, and_or_left, or_assoc]

theorem names_lt_of_precedes (hroot : p.root = q.root) (h : precedes p q = true) (hne : p ≠ q) :
    p.names < q.names := by
  obtain ⟨root, names⟩ := p
  obtain ⟨root', names'⟩ := q
  obtain rfl : root = root' := hroot
  have hnames : namesPrecede names names' = true := by
    by_cases hempty : root = ""
    · simpa [precedes, hempty] using h
    · simpa [precedes, hempty, namesPrecede_cons, String.lt_irrefl] using h
  exact (namesPrecede_iff.mp hnames).resolve_right fun hsame => hne (by rw [hsame])

def descend (path : Path) (names : List String) : Path :=
  { path with names := path.names ++ names }

@[simp] theorem descend_nil (path : Path) : path.descend [] = path := by
  simp [descend]

@[simp] theorem descend_cons (path : Path) (name : String) (names : List String) :
    path.descend (name :: names) = (path.child name).descend names := by
  simp [descend, child]

@[simp] theorem descend_append (path : Path) (names more : List String) :
    path.descend (names ++ more) = (path.descend names).descend more := by
  simp [descend]

@[simp] theorem name_child (path : Path) (name : String) : (path.child name).name = name := by
  simp [Path.name, child]

end TestReach.Path
