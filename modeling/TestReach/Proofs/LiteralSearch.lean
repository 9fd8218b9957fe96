import Mathlib.Order.Bounds.Basic
import TestReach.Proofs.LiteralTerm
import TestReach.Proofs.Occurrence

namespace TestReach

namespace Text

variable {needle text before after : List Char} {pos p first : Nat} {spans : List Span}

def OccursAt (needle text : List Char) (p : Nat) : Prop :=
  slice text p (p + needle.length) = needle

instance (needle text : List Char) (p : Nat) : Decidable (OccursAt needle text p) :=
  inferInstanceAs (Decidable (_ = _))

def placesFrom (needle text : List Char) (pos : Nat) : Set Nat :=
  {p | pos ≤ p ∧ OccursAt needle text p}

theorem length_le_of_slice {span : Span} (h : slice text span.start span.stop = needle) :
    needle.length ≤ span.stop - span.start := by
  rw [← h, slice, List.drop_take]
  exact List.length_take_le _ _

theorem add_mem_placesFrom_iff {n : Nat} :
    pos + n ∈ placesFrom needle text pos ↔ needle <+: (text.drop pos).drop n := by
  rw [List.drop_drop, ← slice_eq_iff]
  exact and_iff_right (Nat.le_add_right pos n)

theorem FirstCut.isLeast_placesFrom (h : FirstCut needle (text.drop pos) before after) :
    IsLeast (placesFrom needle text pos) (pos + before.length) := by
  constructor
  · rw [add_mem_placesFrom_iff, h.eq_append, List.append_assoc, List.drop_left]
    exact List.prefix_append _ _
  · intro p hp
    obtain ⟨n, rfl⟩ := Nat.exists_eq_add_of_le hp.1
    exact Nat.add_le_add_left (h.length_le (add_mem_placesFrom_iff.mp hp)) pos

theorem infix_drop_iff : needle <:+: text.drop pos ↔ (placesFrom needle text pos).Nonempty := by
  constructor
  · intro hin
    obtain ⟨before, after, hcut⟩ := exists_firstCut hin
    exact hcut.isLeast_placesFrom.nonempty
  · rintro ⟨p, hp⟩
    obtain ⟨n, rfl⟩ := Nat.exists_eq_add_of_le hp.1
    exact (add_mem_placesFrom_iff.mp hp).isInfix.trans (List.drop_suffix n _).isInfix

theorem findFrom?_drop_eq_none_iff :
    findFrom? needle pos (text.drop pos) = none ↔ placesFrom needle text pos = ∅ := by
  rw [← Set.not_nonempty_iff_eq_empty, ← infix_drop_iff]
  constructor
  · intro hfind hin
    obtain ⟨before, after, hcut⟩ := exists_firstCut hin
    rw [findFrom?_of_firstCut hcut] at hfind
    cases hfind
  · exact fun h => findFrom?_eq_none h pos

theorem findFrom?_drop_eq_some_iff :
    findFrom? needle pos (text.drop pos) = some first ↔ IsLeast (placesFrom needle text pos) first := by
  have hfound (hin : needle <:+: text.drop pos) : ∃ least, findFrom? needle pos (text.drop pos) =
      some least ∧ IsLeast (placesFrom needle text pos) least := by
    obtain ⟨before, after, hcut⟩ := exists_firstCut hin
    exact ⟨_, findFrom?_of_firstCut hcut pos, hcut.isLeast_placesFrom⟩
  constructor
  · intro hfind
    by_cases hin : needle <:+: text.drop pos
    · obtain ⟨least, hsome, hleast⟩ := hfound hin
      rw [hsome] at hfind
      exact Option.some.inj hfind ▸ hleast
    · rw [findFrom?_eq_none hin] at hfind
      cases hfind
  · intro hfirst
    obtain ⟨least, hsome, hleast⟩ := hfound (infix_drop_iff.mpr hfirst.nonempty)
    rw [hsome, hleast.unique hfirst]

/-- The loop that looks for `needle` from `pos` on ends with `spans`: it stops where nothing is found,
and otherwise takes what is found and goes on at its end. -/
inductive Collects (needle text : List Char) : Nat → List Span → Prop
  | done {pos : Nat} (hfind : findFrom? needle pos (text.drop pos) = none) :
    Collects needle text pos []
  | found {pos first : Nat} {spans : List Span}
    (hfind : findFrom? needle pos (text.drop pos) = some first)
    (hrest : Collects needle text (first + needle.length) spans) :
    Collects needle text pos (⟨first, first + needle.length⟩ :: spans)

theorem Collects.unique {spans' : List Span} (h : Collects needle text pos spans)
    (h' : Collects needle text pos spans') : spans = spans' := by
  induction h generalizing spans' with
  | done hfind =>
    cases h' with
    | done => rfl
    | found hfind' => rw [hfind] at hfind'; cases hfind'
  | found hfind _ ih =>
    cases h' with
    | done hfind' => rw [hfind] at hfind'; cases hfind'
    | found hfind' hrest' =>
      obtain rfl := Option.some.inj (hfind.symm.trans hfind')
      rw [ih hrest']

/-- The loop ends for a text that is not empty: each round moves on by its length at least. -/
theorem collects_occurrencesFrom (hne : needle ≠ []) (text : List Char) (pos : Nat) :
    Collects needle text pos (occurrencesFrom needle pos 0 (text.drop pos)) := by
  induction hleft : text.length - pos using Nat.strong_induction_on generalizing pos with
  | _ left ih =>
    rw [occurrencesFrom_drop hne]
    cases hfind : findFrom? needle pos (text.drop pos) with
    | none => exact .done hfind
    | some first =>
      obtain ⟨⟨hle, hoccurs⟩, -⟩ := findFrom?_drop_eq_some_iff.mp hfind
      have hfits := add_length_le_of_slice hoccurs hne
      have hpos := List.length_pos_iff.mpr hne
      exact .found hfind (ih _ (by omega) _ rfl)

theorem collects_occurrences (hne : needle ≠ []) (text : List Char) :
    Collects needle text 0 (occurrences needle text) :=
  collects_occurrencesFrom hne text 0

theorem findFrom?_nil (pos : Nat) (text : List Char) : findFrom? [] pos text = some pos := by
  cases text <;> rfl

/-- For the empty text it never ends, which is why there is no empty literal term. -/
theorem exists_collects_iff : (∃ spans, Collects needle text pos spans) ↔ needle ≠ [] := by
  constructor
  · rintro ⟨spans, h⟩ rfl
    induction h with
    | done hfind => rw [findFrom?_nil] at hfind; cases hfind
    | found _ _ ih => exact ih
  · exact fun hne => ⟨_, collects_occurrencesFrom hne text pos⟩

/-- Each span begins at the least place that is left at the end of the one before; the first one
begins at the least place from `pos` on. -/
def Leftmost (needle text : List Char) : Nat → List Span → Prop
  | _, [] => True
  | pos, span :: rest =>
    IsLeast (placesFrom needle text pos) span.start ∧ Leftmost needle text span.stop rest

/-- `spans` hold occurrences of `needle` from `pos` on, taken from left to right, and every occurrence
there begins inside one of them that overlaps none of those before it. -/
structure Exhausts (needle text : List Char) (pos : Nat) (spans : List Span) : Prop where
  spelled : ∀ span ∈ spans, slice text span.start span.stop = needle
  covered : ∀ p ∈ placesFrom needle text pos, ∃ earlier a later,
    spans = earlier ++ ⟨a, a + needle.length⟩ :: later ∧ a ∈ placesFrom needle text pos ∧
      a ≤ p ∧ p < a + needle.length ∧ ∀ span ∈ earlier, span.stop ≤ a
  leftmost : Leftmost needle text pos spans

theorem Exhausts.nil (h : placesFrom needle text pos = ∅) : Exhausts needle text pos [] where
  spelled _ hspan := nomatch hspan
  covered p hp := by rw [h] at hp; cases hp
  leftmost := trivial

theorem Exhausts.cons (hfirst : IsLeast (placesFrom needle text pos) first)
    (h : Exhausts needle text (first + needle.length) spans) :
    Exhausts needle text pos (⟨first, first + needle.length⟩ :: spans) where
  spelled := List.forall_mem_cons.mpr ⟨hfirst.1.2, h.spelled⟩
  covered p hp := by
    have hfirst_le : first ≤ p := hfirst.2 hp
    rcases Nat.lt_or_ge p (first + needle.length) with hinside | hbehind
    · exact ⟨[], first, spans, rfl, hfirst.1, hfirst_le, hinside, nofun⟩
    · obtain ⟨earlier, a, later, rfl, ⟨ha, hoccurs⟩, hle, hlt, hearlier⟩ :=
        h.covered p ⟨hbehind, hp.2⟩
      have hpos : pos ≤ first := hfirst.1.1
      refine ⟨_ :: earlier, a, later, rfl, ⟨by omega, hoccurs⟩, hle, hlt, ?_⟩
      exact List.forall_mem_cons.mpr ⟨ha, hearlier⟩
  leftmost := ⟨hfirst, h.leftmost⟩

theorem Collects.exhausts (h : Collects needle text pos spans) : Exhausts needle text pos spans := by
  induction h with
  | done hfind => exact .nil (findFrom?_drop_eq_none_iff.mp hfind)
  | found hfind _ ih => exact .cons (findFrom?_drop_eq_some_iff.mp hfind) ih

/-- The first span ends where its occurrence does. That occurrence is covered, and a span behind the
first one begins too late for it. -/
theorem Exhausts.stop_eq {span : Span} (hne : needle ≠ [])
    (h : Exhausts needle text pos (span :: spans)) : span.stop = span.start + needle.length := by
  obtain ⟨hplace, -⟩ := h.leftmost.1
  have hlength := length_le_of_slice (h.spelled span List.mem_cons_self)
  have hpos := List.length_pos_iff.mpr hne
  obtain ⟨earlier, a, later, hspans, -, hle, -, hearlier⟩ := h.covered _ hplace
  cases earlier with
  | nil =>
    obtain ⟨rfl, -⟩ := List.cons.inj hspans
    rfl
  | cons taken earlier =>
    obtain ⟨rfl, -⟩ := List.cons.inj hspans
    have hstop := hearlier span List.mem_cons_self
    omega

theorem Exhausts.tail {span : Span} (hne : needle ≠ [])
    (h : Exhausts needle text pos (span :: spans)) : Exhausts needle text span.stop spans where
  spelled := (List.forall_mem_cons.mp h.spelled).2
  covered p hp := by
    have hstop := h.stop_eq hne
    obtain ⟨hpos, -⟩ := h.leftmost.1.1
    obtain ⟨hbehind, hoccurs⟩ := hp
    obtain ⟨earlier, a, later, hspans, ⟨-, ha⟩, hle, hlt, hearlier⟩ :=
      h.covered p ⟨by omega, hoccurs⟩
    cases earlier with
    | nil =>
      obtain ⟨rfl, -⟩ := List.cons.inj hspans
      exact absurd hbehind (Nat.not_le.mpr hlt)
    | cons taken earlier =>
      obtain ⟨rfl, rfl⟩ := List.cons.inj hspans
      obtain ⟨hfirst, hearlier⟩ := List.forall_mem_cons.mp hearlier
      exact ⟨earlier, a, later, rfl, ⟨hfirst, ha⟩, hle, hlt, hearlier⟩
  leftmost := h.leftmost.2

theorem Exhausts.collects (hne : needle ≠ []) (h : Exhausts needle text pos spans) :
    Collects needle text pos spans := by
  induction spans generalizing pos with
  | nil =>
    apply Collects.done
    rw [findFrom?_drop_eq_none_iff, Set.eq_empty_iff_forall_notMem]
    intro p hp
    obtain ⟨earlier, a, later, hspans, -⟩ := h.covered p hp
    exact absurd hspans.symm (by simp)
  | cons span rest ih =>
    have hrest := ih (h.tail hne)
    have hfind := findFrom?_drop_eq_some_iff.mpr h.leftmost.1
    obtain ⟨first, stop⟩ := span
    obtain rfl : stop = first + needle.length := h.stop_eq hne
    exact .found hfind hrest

theorem exhausts_iff_collects (hne : needle ≠ []) :
    Exhausts needle text pos spans ↔ Collects needle text pos spans :=
  ⟨Exhausts.collects hne, Collects.exhausts⟩

end Text

/-- The search for a literal text ends; it takes occurrences from left to right, each the first one
behind the one before, and no other list of spans does so and leaves none out. -/
theorem Term.literal_search_exhausts {text : String} (hne : text ≠ "") :
    ∃ literal, Term.make? text false = .ok literal ∧ ∀ source : String,
      Text.Collects text.toList source.toList 0 (literal.findAll source) ∧
        ∀ spans, Text.Exhausts text.toList source.toList 0 spans ↔ spans = literal.findAll source := by
  have hchars : text.toList ≠ [] := by simpa using hne
  refine ⟨.literal text, ?_, fun source => ?_⟩
  · rw [make?, if_neg Bool.false_ne_true, ofLiteral?, if_neg (by simpa using hne)]
  · have hends := Text.collects_occurrences hchars source.toList
    refine ⟨hends, fun spans => ?_⟩
    rw [Text.exhausts_iff_collects hchars]
    constructor
    · exact fun h => h.unique hends
    · rintro rfl
      exact hends

/-- The occurrence at 2 begins inside the one at 0 and is passed by. -/
theorem overlapping_occurrence_covered :
    "aba" ≠ "" ∧ ∃ literal, Term.make? "aba" false = .ok literal ∧
      literal.findAll "ababa aba" = [⟨0, 3⟩, ⟨6, 9⟩] ∧
      Text.OccursAt "aba".toList "ababa aba".toList 2 ∧
      ∀ spans, Text.Exhausts "aba".toList "ababa aba".toList 0 spans ↔ spans = [⟨0, 3⟩, ⟨6, 9⟩] := by
  have hne : "aba" ≠ "" := by decide
  obtain ⟨literal, hliteral, hsearch⟩ := Term.literal_search_exhausts hne
  obtain ⟨-, hexhausts⟩ := hsearch "ababa aba"
  have hfound : literal.findAll "ababa aba" = [⟨0, 3⟩, ⟨6, 9⟩] := by
    obtain rfl : Term.literal "aba" = literal := Except.ok.inj hliteral
    decide
  rw [hfound] at hexhausts
  exact ⟨hne, literal, hliteral, hfound, by decide, hexhausts⟩

end TestReach
