import Mathlib.Data.List.Infix
import TestReach.Text.Search

namespace TestReach.Text

variable {needle text before after a b sep : List Char} {c d : Char}

structure FirstCut (needle text before after : List Char) : Prop where
  eq_append : text = before ++ needle ++ after
  first : ∀ before' after', text = before' ++ needle ++ after' → before.length ≤ before'.length

theorem FirstCut.isInfix (h : FirstCut needle text before after) : needle <:+: text :=
  ⟨before, after, h.eq_append.symm⟩

theorem FirstCut.here (h : needle <+: text) : FirstCut needle text [] (text.drop needle.length) where
  eq_append := by rw [List.nil_append, List.prefix_iff_eq_append.mp h]
  first _ _ _ := Nat.zero_le _

theorem FirstCut.later (hnot : ¬ needle <+: c :: text) (h : FirstCut needle text before after) :
    FirstCut needle (c :: text) (c :: before) after where
  eq_append := by rw [h.eq_append]; rfl
  first before' after' heq := by
    cases before' with
    | nil => exact absurd ⟨after', heq.symm⟩ hnot
    | cons e rest =>
      rw [List.cons_append, List.cons_append] at heq
      exact Nat.succ_le_succ (h.first rest after' (List.cons.inj heq).2)

theorem exists_firstCut (h : needle <:+: text) : ∃ before after, FirstCut needle text before after := by
  induction text with
  | nil =>
    obtain rfl := List.infix_nil.mp h
    exact ⟨[], [], .here List.prefix_rfl⟩
  | cons c text ih =>
    by_cases hstarts : needle <+: c :: text
    · exact ⟨_, _, .here hstarts⟩
    · obtain ⟨before, after, hcut⟩ := ih ((List.infix_cons_iff.mp h).resolve_left hstarts)
      exact ⟨_, _, hcut.later hstarts⟩

/-- No occurrence begins before the first one. -/
theorem FirstCut.length_le (h : FirstCut needle text before after) {p : Nat}
    (hp : needle <+: text.drop p) : before.length ≤ p := by
  obtain ⟨rest, hrest⟩ := hp
  have htext : text = text.take p ++ needle ++ rest := by
    rw [List.append_assoc, hrest, List.take_append_drop]
  exact (h.first _ _ htext).trans (List.length_take_le p text)

theorem FirstCut.unique {before' after' : List Char} (h : FirstCut needle text before after)
    (h' : FirstCut needle text before' after') : before = before' ∧ after = after' := by
  have hlength : before.length = before'.length :=
    Nat.le_antisymm (h.first _ _ h'.eq_append) (h'.first _ _ h.eq_append)
  have heq : before ++ (needle ++ after) = before' ++ (needle ++ after') := by
    rw [← List.append_assoc, ← List.append_assoc, ← h.eq_append, ← h'.eq_append]
  obtain ⟨rfl, hrest⟩ := List.append_inj heq hlength
  exact ⟨rfl, List.append_cancel_left hrest⟩

theorem findFrom?_eq_none (h : ¬ needle <:+: text) (pos : Nat) : findFrom? needle pos text = none := by
  induction text generalizing pos with
  | nil =>
    rw [findFrom?, if_neg]
    simpa using h
  | cons c text ih =>
    rw [List.infix_cons_iff, not_or] at h
    rw [findFrom?, if_neg (by simpa using h.1), ih h.2]

theorem findFrom?_of_firstCut (h : FirstCut needle text before after) (pos : Nat) :
    findFrom? needle pos text = some (pos + before.length) := by
  induction text generalizing before after pos with
  | nil =>
    obtain ⟨rfl, rfl, -⟩ : before = [] ∧ needle = [] ∧ after = [] := by simpa using h.eq_append
    rfl
  | cons c text ih =>
    rw [findFrom?]
    by_cases hstarts : needle <+: c :: text
    · obtain ⟨rfl, -⟩ := (FirstCut.here hstarts).unique h
      rw [if_pos (by simpa using hstarts)]
      rfl
    · have hrest := (List.infix_cons_iff.mp h.isInfix).resolve_left hstarts
      obtain ⟨before', after', hcut⟩ := exists_firstCut hrest
      obtain ⟨rfl, -⟩ := (hcut.later hstarts).unique h
      rw [if_neg (by simpa using hstarts), ih hcut, List.length_cons, Nat.add_assoc, Nat.add_comm 1]

theorem find?_of_firstCut (h : FirstCut needle text before after) :
    find? needle text = some before.length := by
  rw [find?, findFrom?_of_firstCut h, Nat.zero_add]

theorem find?_eq_none (h : ¬ needle <:+: text) : find? needle text = none :=
  findFrom?_eq_none h 0

theorem contains_iff : contains needle text = true ↔ needle <:+: text := by
  by_cases h : needle <:+: text
  · obtain ⟨before, after, hcut⟩ := exists_firstCut h
    simp [contains, find?_of_firstCut hcut, h]
  · simp [contains, find?_eq_none h, h]

/-- `result` is `text` with the first occurrence of `place`, if there is one, replaced. -/
def Filled (place replacement text result : List Char) : Prop :=
  (∃ before after, FirstCut place text before after ∧ result = before ++ replacement ++ after) ∨
    ¬ place <:+: text ∧ result = text

theorem replaceFirst_of_firstCut (h : FirstCut needle text before after) (replacement : List Char) :
    replaceFirst needle replacement text = before ++ replacement ++ after := by
  rw [replaceFirst, find?_of_firstCut h, h.eq_append]
  dsimp only
  rw [List.append_assoc before, List.take_left, ← List.append_assoc, ← List.length_append,
    List.drop_left]

theorem replaceFirst_of_absent (h : ¬ needle <:+: text) (replacement : List Char) :
    replaceFirst needle replacement text = text := by
  rw [replaceFirst, find?_eq_none h]

theorem filled_replaceFirst (place replacement text : List Char) :
    Filled place replacement text (replaceFirst place replacement text) := by
  by_cases h : place <:+: text
  · obtain ⟨before, after, hcut⟩ := exists_firstCut h
    exact Or.inl ⟨before, after, hcut, replaceFirst_of_firstCut hcut replacement⟩
  · exact Or.inr ⟨h, replaceFirst_of_absent h replacement⟩

theorem append_eq_append_append (h : a ++ b = before ++ needle ++ after) :
    (∃ rest, a = before ++ needle ++ rest) ∨ (∃ rest, b = rest ++ needle ++ after ∧ before = a ++ rest) ∨
      ∃ left right, left ≠ [] ∧ right ≠ [] ∧ needle = left ++ right ∧ a = before ++ left ∧
        b = right ++ after := by
  rcases List.append_eq_append_iff.mp h with ⟨right, hbefore, hb⟩ | ⟨rest, ha, -⟩
  · rcases List.append_eq_append_iff.mp hbefore with ⟨left, ha, hneedle⟩ | ⟨rest, hbefore, hright⟩
    · by_cases hleft : left = []
      · subst hleft
        exact Or.inr (Or.inl ⟨[], by rw [hb, hneedle]; rfl, by simp [ha]⟩)
      by_cases hright : right = []
      · subst hright
        exact Or.inl ⟨[], by simp [ha, hneedle]⟩
      exact Or.inr (Or.inr ⟨left, right, hleft, hright, hneedle, ha, hb⟩)
    · exact Or.inr (Or.inl ⟨rest, by rw [hb, hright], hbefore⟩)
  · exact Or.inl ⟨rest, ha⟩

/-- No occurrence reaches over the border of two parts if the second begins with a character that
is not in it. -/
theorem not_infix_append_of_head (ha : ¬ needle <:+: a) (hb : ¬ needle <:+: b)
    (hhead : ∀ d ∈ b.head?, d ∉ needle) : ¬ needle <:+: a ++ b := by
  rintro ⟨before, after, h⟩
  rcases append_eq_append_append h.symm with ⟨rest, rfl⟩ | ⟨rest, rfl, -⟩ |
    ⟨left, right, -, hright, rfl, -, rfl⟩
  · exact ha ⟨before, rest, rfl⟩
  · exact hb ⟨rest, after, rfl⟩
  · obtain ⟨d, right, rfl⟩ := List.exists_cons_of_ne_nil hright
    exact hhead d rfl (by simp)

theorem not_infix_append_of_last (ha : ¬ needle <:+: a) (hb : ¬ needle <:+: b)
    (hlast : ∀ d ∈ a.getLast?, d ∉ needle) : ¬ needle <:+: a ++ b := by
  rintro ⟨before, after, h⟩
  rcases append_eq_append_append h.symm with ⟨rest, rfl⟩ | ⟨rest, rfl, -⟩ |
    ⟨left, right, hleft, -, rfl, rfl, -⟩
  · exact ha ⟨before, rest, rfl⟩
  · exact hb ⟨rest, after, rfl⟩
  · refine hlast (left.getLast hleft) ?_ (by simp)
    rw [List.getLast?_append_of_ne_nil _ hleft, List.getLast?_eq_some_getLast hleft, Option.mem_def]

/-- A part without the last character of a text adds no occurrence of it. -/
theorem not_infix_append_of_getLast (ha : ¬ needle <:+: a) (hne : needle ≠ [])
    (hlast : needle.getLast hne ∉ b) : ¬ needle <:+: a ++ b := by
  rintro ⟨before, after, h⟩
  rcases append_eq_append_append h.symm with ⟨rest, rfl⟩ | ⟨rest, rfl, -⟩ |
    ⟨left, right, -, hright, rfl, -, rfl⟩
  · exact ha ⟨before, rest, rfl⟩
  · exact hlast (by simp)
  · rw [List.getLast_append_of_ne_nil _ hright] at hlast
    exact hlast (List.mem_append_left _ (List.getLast_mem hright))

theorem not_infix_of_not_mem (hc : c ∈ needle) (h : c ∉ text) : ¬ needle <:+: text :=
  fun hin => h (hin.subset hc)

/-- Nothing reaches over a part between two others if it has no character of that part. -/
theorem infix_around_iff (hneedle : needle ≠ []) (hsep : sep ≠ []) (hapart : ∀ c ∈ sep, c ∉ needle) :
    needle <:+: a ++ (sep ++ b) ↔ needle <:+: a ∨ needle <:+: b := by
  have hnot : ¬ needle <:+: sep := by
    obtain ⟨c, hc⟩ := List.exists_mem_of_ne_nil _ hneedle
    exact fun hin => hapart c (hin.subset hc) hc
  constructor
  · intro hin
    by_contra hneither
    rw [not_or] at hneither
    have hrest : ¬ needle <:+: sep ++ b := by
      apply not_infix_append_of_last hnot hneither.2
      exact fun c hc => hapart c (List.mem_of_getLast? hc)
    refine not_infix_append_of_head hneither.1 hrest ?_ hin
    intro c hc
    rw [List.head?_append_of_ne_nil _ hsep] at hc
    exact hapart c (List.mem_of_head? hc)
  · rintro (hin | hin)
    · exact hin.trans (List.prefix_append a (sep ++ b)).isInfix
    · exact hin.trans ((List.suffix_append sep b).trans (List.suffix_append a (sep ++ b))).isInfix

theorem FirstCut.append_right (h : FirstCut needle text before after) (more : List Char) :
    FirstCut needle (text ++ more) before (after ++ more) where
  eq_append := by rw [h.eq_append, List.append_assoc _ after]
  first before' after' heq := by
    have hlength := congrArg List.length h.eq_append
    simp only [List.length_append] at hlength
    rcases append_eq_append_append heq with ⟨rest, htext⟩ | ⟨rest, -, rfl⟩ |
      ⟨left, right, -, -, rfl, rfl, -⟩
    · exact h.first before' rest htext
    · rw [List.length_append]
      omega
    · simp only [List.length_append] at hlength
      omega

/-- What stands before a text and is kept apart from it does not change where it is cut. -/
theorem FirstCut.append_left (h : FirstCut needle text before after) {more : List Char}
    (hmore : ¬ needle <:+: more) (hlast : ∀ d ∈ more.getLast?, d ∉ needle) :
    FirstCut needle (more ++ text) (more ++ before) after where
  eq_append := by rw [h.eq_append]; simp only [List.append_assoc]
  first before' after' heq := by
    rcases append_eq_append_append heq with ⟨rest, rfl⟩ | ⟨rest, htext, rfl⟩ |
      ⟨left, right, hleft, -, rfl, rfl, -⟩
    · exact absurd ⟨before', rest, rfl⟩ hmore
    · simpa using h.first rest after' htext
    · refine absurd ?_ (hlast (left.getLast hleft) ?_)
      · simp
      · rw [List.getLast?_append_of_ne_nil _ hleft, List.getLast?_eq_some_getLast hleft, Option.mem_def]

/-- A text whose first character is only at its head cannot begin inside itself, so what is put in
front of it moves its first occurrence there. -/
theorem firstCut_of_head (hhead : c ∉ needle)
    (hbefore : ¬ c :: needle <:+: before) (after : List Char) :
    FirstCut (c :: needle) (before ++ (c :: needle) ++ after) before after where
  eq_append := rfl
  first before' after' heq := by
    rw [List.append_assoc] at heq
    -- An earlier occurrence lies before this one or reaches into it; there it would repeat its head.
    rcases append_eq_append_append heq with ⟨rest, rfl⟩ | ⟨rest, -, rfl⟩ |
      ⟨left, right, hleft, hright, hneedle, -, hafter⟩
    · exact absurd ⟨before', rest, rfl⟩ hbefore
    · rw [List.length_append]
      exact Nat.le_add_right _ _
    · obtain ⟨d, left, rfl⟩ := List.exists_cons_of_ne_nil hleft
      obtain ⟨e, right, rfl⟩ := List.exists_cons_of_ne_nil hright
      obtain ⟨-, rfl⟩ := List.cons.inj hneedle
      obtain ⟨rfl, -⟩ := List.cons.inj hafter
      exact absurd (List.mem_append_right _ List.mem_cons_self) hhead

/-- A part in the middle that holds no place and keeps apart what stands around it is left as it is:
the place is filled before it, or else after it. -/
theorem replaceFirst_around {place part : List Char} (hpart : ¬ place <:+: part) (hne : part ≠ [])
    (hhead : ∀ d ∈ part.head?, d ∉ place) (hlast : ∀ d ∈ part.getLast?, d ∉ place)
    (replacement before after : List Char) :
    replaceFirst place replacement (before ++ part ++ after) =
      if place <:+: before then replaceFirst place replacement before ++ part ++ after
      else before ++ part ++ replaceFirst place replacement after := by
  -- The ends of the part keep an occurrence from reaching over it, so each side is searched alone.
  have hborder : ∀ d ∈ (before ++ part).getLast?, d ∉ place := by
    rwa [List.getLast?_append_of_ne_nil _ hne]
  split
  · rename_i hbefore
    obtain ⟨first, second, hcut⟩ := exists_firstCut hbefore
    rw [replaceFirst_of_firstCut hcut, List.append_assoc before,
      replaceFirst_of_firstCut (hcut.append_right _)]
    simp only [List.append_assoc]
  · rename_i hbefore
    have hnot := not_infix_append_of_head hbefore hpart hhead
    by_cases hafter : place <:+: after
    · obtain ⟨first, second, hcut⟩ := exists_firstCut hafter
      rw [replaceFirst_of_firstCut hcut, replaceFirst_of_firstCut (hcut.append_left hnot hborder)]
      simp only [List.append_assoc]
    · rw [replaceFirst_of_absent hafter,
        replaceFirst_of_absent (not_infix_append_of_last hnot hafter hborder)]

end TestReach.Text
