import Mathlib.Data.List.Basic
import TestReach.Text.Search

namespace TestReach.Text

variable {isSeparator : Char → Bool} {c : Char} {text a b piece : List Char}
  {pieces front back : List (List Char)}

theorem split_separator (hc : isSeparator c = true) (text : List Char) :
    split isSeparator (c :: text) = [] :: split isSeparator text := by
  rw [split, if_pos hc]

theorem split_ne_nil (isSeparator : Char → Bool) (text : List Char) : split isSeparator text ≠ [] := by
  cases text with
  | nil => exact List.cons_ne_nil _ _
  | cons c rest =>
    unfold split
    split
    · exact List.cons_ne_nil _ _
    · split <;> exact List.cons_ne_nil _ _

theorem exists_split_cons (hc : isSeparator c = false) (text : List Char) :
    ∃ piece pieces, split isSeparator text = piece :: pieces ∧
      split isSeparator (c :: text) = (c :: piece) :: pieces := by
  obtain ⟨piece, pieces, hsplit⟩ := List.exists_cons_of_ne_nil (split_ne_nil isSeparator text)
  refine ⟨piece, pieces, hsplit, ?_⟩
  rw [split, if_neg (by simp [hc]), hsplit]

theorem split_append_separator (hc : isSeparator c = true) (a b : List Char) :
    split isSeparator (a ++ c :: b) = split isSeparator a ++ split isSeparator b := by
  induction a with
  | nil => rw [List.nil_append, split_separator hc]; rfl
  | cons d a ih =>
    by_cases hd : isSeparator d = true
    · rw [List.cons_append, split_separator hd, split_separator hd, ih, List.cons_append]
    · rw [Bool.not_eq_true] at hd
      obtain ⟨piece, pieces, hsplit, hcons⟩ := exists_split_cons hd a
      obtain ⟨piece', pieces', hsplit', hcons'⟩ := exists_split_cons hd (a ++ c :: b)
      rw [hsplit', hsplit, List.cons_append] at ih
      obtain ⟨rfl, rfl⟩ := List.cons.inj ih
      rw [List.cons_append, hcons, hcons', List.cons_append]

theorem split_of_whole (h : ∀ c ∈ text, isSeparator c = false) : split isSeparator text = [text] := by
  induction text with
  | nil => rfl
  | cons c text ih =>
    obtain ⟨hc, htext⟩ := List.forall_mem_cons.mp h
    obtain ⟨piece, pieces, hsplit, hcons⟩ := exists_split_cons hc text
    obtain ⟨rfl, rfl⟩ := List.cons.inj (hsplit.symm.trans (ih htext))
    exact hcons

theorem split_intercalate {pieces : List (List Char)} (hc : isSeparator c = true) (hne : pieces ≠ [])
    (h : ∀ piece ∈ pieces, ∀ d ∈ piece, isSeparator d = false) :
    split isSeparator ([c].intercalate pieces) = pieces := by
  induction pieces with
  | nil => exact absurd rfl hne
  | cons piece pieces ih =>
    obtain ⟨hpiece, hpieces⟩ := List.forall_mem_cons.mp h
    cases pieces with
    | nil => rw [List.intercalate_singleton, split_of_whole hpiece]
    | cons next pieces =>
      rw [List.intercalate_cons_cons, List.append_assoc, List.singleton_append,
        split_append_separator hc, split_of_whole hpiece, ih (List.cons_ne_nil _ _) hpieces]
      rfl

theorem not_separator_of_mem_split (h : piece ∈ split isSeparator text) :
    ∀ c ∈ piece, isSeparator c = false := by
  induction text generalizing piece with
  | nil =>
    obtain rfl : piece = [] := List.mem_singleton.mp h
    simp
  | cons d text ih =>
    by_cases hd : isSeparator d = true
    · rw [split_separator hd, List.mem_cons] at h
      rcases h with rfl | h
      · simp
      · exact ih h
    · rw [Bool.not_eq_true] at hd
      obtain ⟨first, pieces, hsplit, hcons⟩ := exists_split_cons hd text
      rw [hsplit] at ih
      rw [hcons, List.mem_cons] at h
      rcases h with rfl | h
      · exact List.forall_mem_cons.mpr ⟨hd, ih List.mem_cons_self⟩
      · exact ih (List.mem_cons_of_mem _ h)

theorem exists_split_append (hb : ∀ c ∈ b, isSeparator c = false) (text : List Char) :
    ∃ pieces last, split isSeparator text = pieces ++ [last] ∧
      split isSeparator (text ++ b) = pieces ++ [last ++ b] := by
  induction text with
  | nil => exact ⟨[], [], rfl, split_of_whole hb⟩
  | cons d text ih =>
    obtain ⟨pieces, last, hsplit, happend⟩ := ih
    by_cases hd : isSeparator d = true
    · refine ⟨[] :: pieces, last, ?_, ?_⟩
      · rw [split_separator hd, hsplit, List.cons_append]
      · rw [List.cons_append, split_separator hd, happend, List.cons_append]
    · rw [Bool.not_eq_true] at hd
      obtain ⟨first, rest, hsplit', hcons⟩ := exists_split_cons hd text
      obtain ⟨first', rest', happend', hcons'⟩ := exists_split_cons hd (text ++ b)
      rw [hsplit] at hsplit'
      rw [happend] at happend'
      rw [List.cons_append, hcons, hcons']
      cases pieces with
      | nil =>
        obtain ⟨hfirst, hrest⟩ := List.cons.inj hsplit'
        obtain ⟨hfirst', hrest'⟩ := List.cons.inj happend'
        rw [← hfirst, ← hrest, ← hfirst', ← hrest']
        exact ⟨[], d :: last, rfl, rfl⟩
      | cons piece pieces =>
        obtain ⟨hfirst, hrest⟩ := List.cons.inj hsplit'
        obtain ⟨hfirst', hrest'⟩ := List.cons.inj happend'
        rw [← hfirst, ← hrest, ← hfirst', ← hrest']
        exact ⟨(d :: piece) :: pieces, last, rfl, rfl⟩

theorem exists_of_split_eq_append (h : split isSeparator text = front ++ back) (hfront : front ≠ [])
    (hback : back ≠ []) : ∃ a c b, text = a ++ c :: b ∧ isSeparator c = true ∧
      split isSeparator a = front ∧ split isSeparator b = back := by
  induction text generalizing front with
  | nil =>
    have hlength := congrArg List.length h
    have hone := List.length_pos_iff.mpr hfront
    have htwo := List.length_pos_iff.mpr hback
    rw [List.length_append, split, List.length_singleton] at hlength
    omega
  | cons d text ih =>
    obtain ⟨first, front, rfl⟩ := List.exists_cons_of_ne_nil hfront
    by_cases hd : isSeparator d = true
    · rw [split_separator hd, List.cons_append] at h
      obtain ⟨rfl, hrest⟩ := List.cons.inj h
      by_cases hend : front = []
      · subst hend
        exact ⟨[], d, text, rfl, hd, rfl, hrest⟩
      · obtain ⟨a, c, b, rfl, hc, rfl, hb⟩ := ih hrest hend
        exact ⟨d :: a, c, b, rfl, hc, split_separator hd a, hb⟩
    -- The character joins the first piece of the rest, which is then cut in the same place.
    · rw [Bool.not_eq_true] at hd
      obtain ⟨piece, pieces, hsplit, hcons⟩ := exists_split_cons hd text
      rw [hcons, List.cons_append] at h
      obtain ⟨rfl, rfl⟩ := List.cons.inj h
      have hpieces : split isSeparator text = (piece :: front) ++ back := hsplit
      obtain ⟨a, c, b, rfl, hc, ha, hb⟩ := ih hpieces (List.cons_ne_nil _ _)
      obtain ⟨piece', pieces', hsplit', hcons'⟩ := exists_split_cons hd a
      obtain ⟨rfl, rfl⟩ := List.cons.inj (hsplit'.symm.trans ha)
      exact ⟨d :: a, c, b, rfl, hc, hcons', hb⟩

theorem eq_of_split_singleton (h : split isSeparator text = [piece]) : text = piece := by
  induction text generalizing piece with
  | nil => exact List.singleton_inj.mp h
  | cons d text ih =>
    by_cases hd : isSeparator d = true
    · rw [split_separator hd] at h
      exact absurd (List.cons.inj h).2 (split_ne_nil isSeparator text)
    · rw [Bool.not_eq_true] at hd
      obtain ⟨first, rest, hsplit, hcons⟩ := exists_split_cons hd text
      rw [hcons] at h
      obtain ⟨rfl, rfl⟩ := List.cons.inj h
      rw [ih hsplit]

theorem suffix_of_split_eq_append (h : split isSeparator text = pieces ++ [piece]) : piece <:+ text := by
  by_cases hone : pieces = []
  · rw [hone, List.nil_append] at h
    obtain rfl := eq_of_split_singleton h
    exact List.suffix_rfl
  · obtain ⟨a, c, b, rfl, -, -, hb⟩ := exists_of_split_eq_append h hone (List.cons_ne_nil _ _)
    rw [eq_of_split_singleton hb]
    exact (List.suffix_cons c piece).trans (List.suffix_append a _)

end TestReach.Text
