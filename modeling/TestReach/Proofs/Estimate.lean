import Mathlib.Algebra.BigOperators.Group.List.Basic
import Mathlib.Data.List.TakeWhile
import Mathlib.Tactic.Ring
import TestReach.Estimate
import TestReach.Proofs.Outcome

namespace TestReach

namespace Text

/-- The number whose digits in a base are `digits`, the most significant first. -/
def positional (base : Nat) (digits : List Nat) : Nat :=
  (digits.mapIdx fun i d => d * base ^ (digits.length - (i + 1))).sum

theorem positional_cons (base d : Nat) (digits : List Nat) :
    positional base (d :: digits) = d * base ^ digits.length + positional base digits := by
  simp only [positional, List.mapIdx_cons, List.sum_cons, List.length_cons, Nat.add_sub_add_right,
    Nat.sub_zero]

/-- A number may be read digit by digit, each moving those before it up by one place. -/
theorem foldl_eq_positional (base acc : Nat) (digits : List Nat) :
    digits.foldl (fun n d => n * base + d) acc =
      acc * base ^ digits.length + positional base digits := by
  induction digits generalizing acc with
  | nil => simp [positional]
  | cons d digits ih =>
    rw [List.foldl_cons, ih, positional_cons, List.length_cons]
    ring

theorem ofDigits_eq_positional (digits : List Nat) : ofDigits digits = positional 10 digits := by
  rw [ofDigits, foldl_eq_positional, Nat.zero_mul, Nat.zero_add]

end Text

namespace Estimate

open Text

variable {estimate : String} {field : List Char} {front fields : List (List Char)} {fault : Fault}

def fieldsOf (estimate : String) : List (List Char) :=
  split (· == ':') (strip estimate.toList)

/-- Some digits and nothing else, whether they have a place value or not. -/
structure IsDigits (field : List Char) : Prop where
  nonempty : field ≠ []
  digits : ∀ c ∈ field, isDigit c = true

/-- Some decimal digits and nothing else, not more than a number may have. -/
structure IsNumber (field : List Char) : Prop where
  nonempty : field ≠ []
  decimals : ∀ c ∈ field, isDecimal c = true
  length : field.length ≤ digitLimit

def decimalValue (field : List Char) : Nat :=
  positional 10 (field.filterMap decimalValue?)

inductive Fault.Concerns (field : List Char) : Fault → Prop where
  /-- Some digit has no place value. -/
  | notDecimal (h : ∃ c ∈ field, isDecimal c = false) :
      Concerns field (.notDecimal (String.ofList field))
  /-- The field begins with more decimal digits than a number may have. -/
  | tooManyDigits (decimals rest : List Char) (hfield : field = decimals ++ rest)
      (hdecimals : ∀ c ∈ decimals, isDecimal c = true)
      (hrest : ∀ c ∈ rest.head?, isDecimal c = false) (hmany : digitLimit < decimals.length) :
      Concerns field (.tooManyDigits decimals.length)

/-- The first field that is no number consists of digits all the same. -/
def Faulty (estimate : String) : Prop :=
  ∃ front field back, fieldsOf estimate = front ++ field :: back ∧
    (∀ number ∈ front, IsNumber number) ∧ IsDigits field ∧ ¬ IsNumber field

structure Counted (estimate : String) : Prop where
  numbers : (∀ field ∈ fieldsOf estimate, IsNumber field) →
    seconds estimate = .ok (positional 60 ((fieldsOf estimate).map decimalValue))
  /-- Something else than a digit, or nothing at all, in the first field that is no number. -/
  unreadable : ∀ front field back, fieldsOf estimate = front ++ field :: back →
    (∀ number ∈ front, IsNumber number) → ¬ IsDigits field → seconds estimate = .ok 0
  faulty : ∀ front field back, fieldsOf estimate = front ++ field :: back →
    (∀ number ∈ front, IsNumber number) → IsDigits field → ¬ IsNumber field →
      ∃ fault, seconds estimate = .error fault ∧ fault.Concerns field

theorem isDigits_iff : IsDigits field ↔ (field.isEmpty || !field.all isDigit) = false := by
  simp only [Bool.or_eq_false_iff, List.isEmpty_eq_false_iff, Bool.not_eq_false', List.all_eq_true]
  exact ⟨fun h => ⟨h.nonempty, h.digits⟩, fun h => ⟨h.1, h.2⟩⟩

theorem IsNumber.isDigits (h : IsNumber field) : IsDigits field where
  nonempty := h.nonempty
  digits c hc := by rw [isDigit, h.decimals c hc, Bool.true_or]

theorem fieldValue_of_isNumber (h : IsNumber field) : fieldValue field = .ok (decimalValue field) := by
  have hdecimals : field.takeWhile isDecimal = field :=
    List.takeWhile_eq_self_iff.mpr h.decimals
  rw [fieldValue]
  simp only [hdecimals]
  rw [if_neg (Nat.not_lt.mpr h.length), if_neg (Nat.lt_irrefl _), ofDigits_eq_positional]
  rfl

theorem exists_fault_of_isDigits (h : IsDigits field) (hnot : ¬ IsNumber field) :
    ∃ fault, fieldValue field = .error fault ∧ fault.Concerns field := by
  have hsplit : field = field.takeWhile isDecimal ++ field.dropWhile isDecimal :=
    List.takeWhile_append_dropWhile.symm
  have hdecimals : ∀ c ∈ field.takeWhile isDecimal, isDecimal c = true :=
    fun c hc => List.mem_takeWhile_imp hc
  simp only [fieldValue]
  split
  · rename_i hmany
    refine ⟨_, rfl, .tooManyDigits _ _ hsplit hdecimals (fun c hc => ?_) hmany⟩
    simpa [Option.mem_def.mp hc] using List.head?_dropWhile_not isDecimal field
  · rename_i hfew
    -- The digits are few enough for a number, so not all of them are decimal.
    have hother : ∃ c ∈ field, isDecimal c = false := by
      by_contra hall
      have hall : ∀ c ∈ field, isDecimal c = true := by simpa using hall
      refine hnot ⟨h.nonempty, hall, ?_⟩
      rw [List.takeWhile_eq_self_iff.mpr hall] at hfew
      exact Nat.not_lt.mp hfew
    have hshort : (field.takeWhile isDecimal).length < field.length := by
      obtain ⟨c, hc, hnone⟩ := hother
      apply (List.takeWhile_prefix isDecimal).length_le.lt_of_ne
      intro hlength
      have hwhole := (List.takeWhile_prefix isDecimal).eq_of_length hlength
      rw [← hwhole] at hc
      rw [hdecimals c hc] at hnone
      cases hnone
    rw [if_pos hshort]
    exact ⟨_, rfl, .notDecimal hother⟩

theorem secondsFrom_cons (h : IsNumber field) (total : Nat) (fields : List (List Char)) :
    secondsFrom total (field :: fields) = secondsFrom (total * 60 + decimalValue field) fields := by
  rw [secondsFrom, isDigits_iff.mp h.isDigits, fieldValue_of_isNumber h]
  rfl

theorem secondsFrom_append (hfront : ∀ number ∈ front, IsNumber number) (total : Nat)
    (fields : List (List Char)) : secondsFrom total (front ++ fields) =
      secondsFrom ((front.map decimalValue).foldl (fun n d => n * 60 + d) total) fields := by
  induction front generalizing total with
  | nil => rfl
  | cons field front ih =>
    obtain ⟨hfield, hfront⟩ := List.forall_mem_cons.mp hfront
    rw [List.cons_append, secondsFrom_cons hfield, ih hfront, List.map_cons, List.foldl_cons]

theorem secondsFrom_unreadable (h : ¬ IsDigits field) (total : Nat) (fields : List (List Char)) :
    secondsFrom total (field :: fields) = .ok 0 := by
  rw [isDigits_iff, Bool.not_eq_false] at h
  rw [secondsFrom, if_pos h]

theorem secondsFrom_faulty (h : IsDigits field) (hvalue : fieldValue field = .error fault) (total : Nat)
    (fields : List (List Char)) : secondsFrom total (field :: fields) = .error fault := by
  rw [secondsFrom, isDigits_iff.mp h, hvalue]
  rfl

theorem counted (estimate : String) : Counted estimate where
  numbers hnumbers := by
    have happend := secondsFrom_append hnumbers 0 []
    rw [List.append_nil, foldl_eq_positional, Nat.zero_mul, Nat.zero_add] at happend
    exact happend
  unreadable front field back hfields hfront hfield := by
    rw [seconds, ← fieldsOf, hfields, secondsFrom_append hfront, secondsFrom_unreadable hfield]
  faulty front field back hfields hfront hfield hnot := by
    obtain ⟨fault, hvalue, hfault⟩ := exists_fault_of_isDigits hfield hnot
    refine ⟨fault, ?_, hfault⟩
    rw [seconds, ← fieldsOf, hfields, secondsFrom_append hfront, secondsFrom_faulty hfield hvalue]

/-- Fields that are not all numbers have a first one that is none. -/
theorem exists_first_not_number (h : ¬ ∀ field ∈ fields, IsNumber field) :
    ∃ front field back, fields = front ++ field :: back ∧ (∀ number ∈ front, IsNumber number) ∧
      ¬ IsNumber field := by
  induction fields with
  | nil => exact absurd (fun field hfield => absurd hfield List.not_mem_nil) h
  | cons field fields ih =>
    by_cases hfield : IsNumber field
    · have hrest : ¬ ∀ field ∈ fields, IsNumber field :=
        fun hall => h (List.forall_mem_cons.mpr ⟨hfield, hall⟩)
      obtain ⟨front, other, back, rfl, hfront, hother⟩ := ih hrest
      exact ⟨field :: front, other, back, rfl, List.forall_mem_cons.mpr ⟨hfield, hfront⟩, hother⟩
    · exact ⟨[], field, fields, rfl, by simp, hfield⟩

theorem exists_error_iff_faulty : (∃ fault, seconds estimate = .error fault) ↔ Faulty estimate := by
  constructor
  · rintro ⟨fault, herror⟩
    have hnot : ¬ ∀ field ∈ fieldsOf estimate, IsNumber field := by
      intro hnumbers
      rw [(counted estimate).numbers hnumbers] at herror
      cases herror
    obtain ⟨front, field, back, hfields, hfront, hfield⟩ := exists_first_not_number hnot
    refine ⟨front, field, back, hfields, hfront, ?_, hfield⟩
    by_contra hdigits
    rw [(counted estimate).unreadable front field back hfields hfront hdigits] at herror
    cases herror
  · rintro ⟨front, field, back, hfields, hfront, hdigits, hfield⟩
    obtain ⟨fault, herror, -⟩ := (counted estimate).faulty front field back hfields hfront hdigits hfield
    exact ⟨fault, herror⟩

end Estimate
end TestReach
