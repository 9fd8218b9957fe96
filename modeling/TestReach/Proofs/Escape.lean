import Mathlib.Tactic.SplitIfs
import TestReach.Proofs.Occurrence
import TestReach.Xml.Escape

namespace TestReach

namespace Text

variable {needle replacement text : List Char} {c : Char}

theorem replaceAllFrom_eq_drop (needle replacement : List Char) (skip : Nat) (text : List Char) :
    replaceAllFrom needle replacement skip text = replaceAll needle replacement (text.drop skip) := by
  induction text generalizing skip with
  | nil => simp [replaceAll, replaceAllFrom]
  | cons c text ih =>
    cases skip with
    | zero => rfl
    | succ skip => rw [replaceAllFrom, ih, List.drop_succ_cons]

theorem replaceAll_append (hne : needle ≠ []) (replacement text : List Char) :
    replaceAll needle replacement (needle ++ text) =
      replacement ++ replaceAll needle replacement text := by
  obtain ⟨c, rest, rfl⟩ := List.exists_cons_of_ne_nil hne
  have hstarts : (c :: rest).isPrefixOf (c :: rest ++ text) = true := by simp
  rw [replaceAll, List.cons_append, replaceAllFrom, ← List.cons_append, if_pos hstarts,
    replaceAllFrom_eq_drop]
  simp

theorem replaceAll_cons (h : ¬ needle <+: c :: text) (replacement : List Char) :
    replaceAll needle replacement (c :: text) = c :: replaceAll needle replacement text := by
  rw [replaceAll, replaceAllFrom, if_neg (by simpa using h)]
  rfl

end Text

namespace Xml

open Text

variable {c : Char} {data : List Char}

/-- Characters with a blank inside each pair of dashes, as a comment holds them. -/
def apart (data : List Char) : List Char :=
  replaceAll ['-', '-'] ['-', ' ', '-'] data

theorem toList_commentText (data : String) : (commentText data).toList = apart data.toList :=
  String.toList_ofList

@[simp] theorem apart_nil : apart [] = [] := rfl

theorem apart_pair (data : List Char) :
    apart ('-' :: '-' :: data) = '-' :: ' ' :: '-' :: apart data :=
  replaceAll_append (by decide : ['-', '-'] ≠ []) ['-', ' ', '-'] data

theorem apart_cons (h : ¬ ['-', '-'] <+: c :: data) : apart (c :: data) = c :: apart data :=
  replaceAll_cons h _

@[elab_as_elim]
theorem apart_induction {motive : List Char → Prop} (nil : motive [])
    (pair : ∀ data, motive data → motive ('-' :: '-' :: data))
    (other : ∀ c data, ¬ ['-', '-'] <+: c :: data → motive data → motive (c :: data)) :
    ∀ data, motive data
  | [] => nil
  | [c] => other c [] (by simp) nil
  | c :: d :: data => by
    by_cases hpair : c = '-' ∧ d = '-'
    · obtain ⟨rfl, rfl⟩ := hpair
      exact pair data (apart_induction nil pair other data)
    · exact other c (d :: data) (by simpa [eq_comm] using hpair)
        (apart_induction nil pair other (d :: data))

/-- In a comment no two dashes begin the text, and none stand right after a character that is neither
a dash nor a blank. -/
theorem dashes_apart (hdash : c ≠ '-') (hblank : c ≠ ' ') (data : List Char) :
    ¬ ['-', '-'] <+: apart data ∧ ¬ [c, '-', '-'] <:+: apart data := by
  induction data using apart_induction with
  | nil => simp
  | pair data ih =>
    rw [apart_pair]
    simp [List.infix_cons_iff, ih.2, hdash, hblank]
  | other d data hother ih =>
    rw [apart_cons hother, List.infix_cons_iff, not_or]
    refine ⟨?_, fun hstarts => ih.1 (List.cons_prefix_cons.mp hstarts).2, ih.2⟩
    -- A lone dash stays alone: what follows it is no dash and is kept.
    rw [List.cons_prefix_cons] at hother ⊢
    cases data using apart_induction with
    | nil => simp
    | pair data => simpa [apart_pair] using hother
    | other e data hnext => simpa [apart_cons hnext] using hother

theorem not_infix_commentText (hdash : c ≠ '-') (hblank : c ≠ ' ') (text : String) :
    ¬ [c, '-', '-', '>'] <:+: (commentText text).toList := by
  rw [toList_commentText]
  intro h
  have hshort : [c, '-', '-'] <:+: [c, '-', '-', '>'] := ⟨[], ['>'], rfl⟩
  exact (dashes_apart hdash hblank text.toList).2 (hshort.trans h)

theorem commentText_append {first : String} (hfirst : '-' ∉ first.toList) (second : String) :
    commentText (first ++ second) = first ++ commentText second := by
  have hchars : ∀ chars : List Char, '-' ∉ chars →
      apart (chars ++ second.toList) = chars ++ apart second.toList := by
    intro chars hchars
    induction chars with
    | nil => rfl
    | cons c chars ih =>
      obtain ⟨hc, hrest⟩ := not_or.mp fun hmem => hchars (List.mem_cons.mpr hmem)
      rw [List.cons_append, apart_cons (by simp [hc]), ih hrest, List.cons_append]
  apply String.toList_injective
  rw [toList_commentText, String.toList_append, hchars _ hfirst, String.toList_append,
    toList_commentText]

variable {d : Char}

theorem bracket_not_mem_escapedChar (h : d = '<' ∨ d = '>') (c : Char) : d ∉ escapedChar c := by
  unfold escapedChar
  split_ifs with hamp hless hgreater
  · rcases h with rfl | rfl <;> decide
  · rcases h with rfl | rfl <;> decide
  · rcases h with rfl | rfl <;> decide
  · rintro hmem
    obtain rfl := List.mem_singleton.mp hmem
    rcases h with rfl | rfl
    · exact hless rfl
    · exact hgreater rfl

theorem bracket_not_mem_escape (h : d = '<' ∨ d = '>') (text : String) : d ∉ (escape text).toList := by
  rw [escape, String.toList_ofList, List.mem_flatMap]
  rintro ⟨c, -, hmem⟩
  exact bracket_not_mem_escapedChar h c hmem

theorem bracket_not_mem_escapeAttribute (h : d = '<' ∨ d = '>') (text : String) :
    d ∉ (escapeAttribute text).toList := by
  rw [escapeAttribute, String.toList_ofList, List.mem_flatMap]
  rintro ⟨c, -, hmem⟩
  split at hmem
  · rcases h with rfl | rfl <;> revert hmem <;> decide
  · exact bracket_not_mem_escapedChar h c hmem

end Xml
end TestReach
