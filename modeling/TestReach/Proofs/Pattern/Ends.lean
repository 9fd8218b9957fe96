import Mathlib.Order.Nat
import TestReach.Pattern.Match

namespace TestReach.Pattern

def runEnds (text : Array Char) (greed : Greed) (least : Nat) (most : Option Nat) (test : CharTest)
    (s : State) : List State :=
  let room := text.size - s.pos
  let longest := runLength text test ((most.getD room).min room) s.pos
  let after (n : Nat) : State := { s with pos := s.pos + least + n }
  if longest < least then []
  else match greed with
    | .greedy => (List.range (longest - least + 1)).reverse.map after
    | .lazy => (List.range (longest - least + 1)).map after
    | .possessive => [{ s with pos := s.pos + longest }]

def greedyEnds (body : State → List State) (least : Nat) (most : Option Nat) :
    (fuel count : Nat) → (last : Option Nat) → State → List State
  | 0, _, _, s => [s]
  | fuel + 1, count, last, s =>
    if count < least then (body s).flatMap (greedyEnds body least most fuel (count + 1) last)
    else if allows most count && last != some s.pos then
      (body s).flatMap (greedyEnds body least most fuel (count + 1) (some s.pos)) ++ [s]
    else [s]

def lazyEnds (body : State → List State) (least : Nat) (most : Option Nat) :
    (fuel count : Nat) → (last : Option Nat) → State → List State
  | 0, _, _, s => [s]
  | fuel + 1, count, last, s =>
    if count < least then (body s).flatMap (lazyEnds body least most fuel (count + 1) last)
    else if allows most count && last != some s.pos then
      s :: (body s).flatMap (lazyEnds body least most fuel (count + 1) (some s.pos))
    else [s]

/-- The states in which a node can end, the preferred ones first. -/
def Node.ends (text : Array Char) : Node → State → List State
  | .empty, s => [s]
  | .one test, s =>
    match text[s.pos]? with
    | some c => if test.admits c then [{ s with pos := s.pos + 1 }] else []
    | none => []
  | .anchor place, s => if place.holds text s.pos then [s] else []
  | .seq first second, s => (first.ends text s).flatMap (second.ends text)
  | .alt first second, s => first.ends text s ++ second.ends text s
  | .capture group body, s => (body.ends text (s.enter group)).map (·.leave group)
  | .many greed least most test, s => runEnds text greed least most test s
  | .repeated greed least most body, s =>
    let fuel := least + (text.size - s.pos) + 2
    match greed with
    | .greedy => greedyEnds (body.ends text) least most fuel 0 none s
    | .lazy => lazyEnds (body.ends text) least most fuel 0 none s
    | .possessive =>
      (passes (fun s next => (body.ends text s).findSome? next) least most fuel 0 none s).toList
  | .atomic body, s => (body.ends text s).head?.toList
  | .ahead negated body, s =>
    match (body.ends text s).head? with
    | some s' => if negated then [] else [{ s' with pos := s.pos }]
    | none => if negated then [s] else []
  | .behind negated least _ body, s =>
    let found :=
      if s.pos < least then none else (body.ends text { s with pos := s.pos - least }).head?
    match found with
    | some s' => if negated then [] else [{ s' with pos := s.pos }]
    | none => if negated then [s] else []
  | .recall folding group, s =>
    match s.group? group with
    | some span =>
      let spelling := (text.extract span.start span.stop).toList
      if spells text folding s.pos spelling then [{ s with pos := s.pos + spelling.length }] else []
    | none => []
  | .choose group ifMatched otherwise, s =>
    if (s.group? group).isSome then ifMatched.ends text s else otherwise.ends text s

variable {text : Array Char} {least : Nat} {most : Option Nat}

theorem findSome?_flatMap {α β γ : Type} (l : List α) (f : α → List β) (g : β → Option γ) :
    (l.flatMap f).findSome? g = l.findSome? fun a => (f a).findSome? g := by
  induction l with
  | nil => rfl
  | cons a rest ih =>
    rw [List.flatMap_cons, List.findSome?_append, ih, List.findSome?_cons]
    cases (f a).findSome? g <;> rfl

theorem findSome?_some {α : Type} (l : List α) : l.findSome? some = l.head? := by
  cases l <;> rfl

theorem tryDown_eq_findSome? (s : State) (next : Remainder) (pos n : Nat) :
    tryDown s next pos n =
      ((List.range (n + 1)).reverse.map fun i => { s with pos := pos + i }).findSome? next := by
  induction n with
  | zero => simp [tryDown]
  | succ n ih =>
    rw [tryDown, ih, List.range_succ (n := n + 1), List.reverse_append, List.reverse_singleton,
      List.singleton_append, List.map_cons, List.findSome?_cons]
    cases next { s with pos := pos + (n + 1) } <;> rfl

theorem tryUp_eq_findSome? (s : State) (next : Remainder) (pos n : Nat) :
    tryUp s next pos n =
      ((List.range (n + 1)).map fun i => { s with pos := pos + i }).findSome? next := by
  induction n generalizing pos with
  | zero => simp [tryUp]
  | succ n ih =>
    have hshift : (fun i => ({ s with pos := pos + 1 + i } : State)) =
        (fun i => { s with pos := pos + i }) ∘ Nat.succ := by
      funext i
      simp only [Function.comp_apply, Nat.succ_eq_add_one, Nat.add_assoc, Nat.add_comm 1 i]
    rw [tryUp, ih, hshift, List.range_succ_eq_map (n := n + 1), List.map_cons, List.map_map,
      List.findSome?_cons]
    cases next { s with pos := pos } <;> rfl

theorem tryRun_eq_findSome? (text : Array Char) (greed : Greed) (least : Nat) (most : Option Nat)
    (test : CharTest) (s : State) (next : Remainder) :
    tryRun text greed least most test s next =
      (runEnds text greed least most test s).findSome? next := by
  unfold tryRun runEnds
  dsimp only
  split
  · rfl
  · cases greed with
    | greedy => exact tryDown_eq_findSome? ..
    | lazy => exact tryUp_eq_findSome? ..
    | possessive => exact (List.findSome?_singleton ..).symm

section Repetition

variable {body : State → Remainder → Option State} {bodyEnds : State → List State}

theorem tryGreedy_eq_findSome? (hbody : ∀ s next, body s next = (bodyEnds s).findSome? next)
    (fuel count : Nat) (last : Option Nat) (s : State) (next : Remainder) :
    tryGreedy body least most fuel count last s next =
      (greedyEnds bodyEnds least most fuel count last s).findSome? next := by
  induction fuel generalizing count last s with
  | zero => simp [tryGreedy, greedyEnds]
  | succ fuel ih =>
    unfold tryGreedy greedyEnds
    split
    · simp only [hbody, findSome?_flatMap, ih]
    · split
      · simp only [hbody, List.findSome?_append, findSome?_flatMap, ih, List.findSome?_singleton,
          Option.orElse_eq_orElse, Option.orElse_eq_or]
      · exact (List.findSome?_singleton ..).symm

theorem tryLazy_eq_findSome? (hbody : ∀ s next, body s next = (bodyEnds s).findSome? next)
    (fuel count : Nat) (last : Option Nat) (s : State) (next : Remainder) :
    tryLazy body least most fuel count last s next =
      (lazyEnds bodyEnds least most fuel count last s).findSome? next := by
  induction fuel generalizing count last s with
  | zero => simp [tryLazy, lazyEnds]
  | succ fuel ih =>
    unfold tryLazy lazyEnds
    split
    · simp only [hbody, findSome?_flatMap, ih]
    · split
      · simp only [hbody, List.findSome?_cons, findSome?_flatMap, ih]
        cases next s <;> rfl
      · rw [List.findSome?_singleton]
        cases next s <;> rfl

end Repetition

/-- The first way in which node and remainder both match is the first end that the remainder
accepts. -/
theorem Node.run_eq_findSome? (text : Array Char) (node : Node) (s : State) (next : Remainder) :
    node.run text s next = (node.ends text s).findSome? next := by
  induction node generalizing s next with
  | empty => exact (List.findSome?_singleton ..).symm
  | one test =>
    unfold run ends
    cases text[s.pos]? with
    | none => rfl
    | some c =>
      dsimp only
      split <;> simp
  | anchor place =>
    unfold run ends
    split <;> simp
  | seq first second ihFirst ihSecond => simp only [run, ends, ihFirst, ihSecond, findSome?_flatMap]
  | alt first second ihFirst ihSecond =>
    simp only [run, ends, ihFirst, ihSecond, List.findSome?_append, Option.orElse_eq_orElse,
      Option.orElse_eq_or]
  | capture group body ih =>
    simp only [run, ends, ih, List.findSome?_map]
    rfl
  | many greed least most test => exact tryRun_eq_findSome? ..
  | «repeated» greed least most body ih =>
    unfold run ends
    -- The loops have been compared for any body that runs by its ends, as this one does by induction.
    cases greed with
    | greedy => exact tryGreedy_eq_findSome? ih ..
    | lazy => exact tryLazy_eq_findSome? ih ..
    | possessive =>
      have hbody : body.run text = fun s next => (body.ends text s).findSome? next :=
        funext fun s => funext fun next => ih s next
      dsimp only
      rw [hbody]
      cases passes (fun s next => (body.ends text s).findSome? next) least most _ 0 none s <;> simp
  | atomic body ih =>
    simp only [run, ends, ih, findSome?_some]
    cases (body.ends text s).head? <;> simp
  | ahead negated body ih =>
    simp only [run, ends, ih, findSome?_some]
    cases (body.ends text s).head? <;> cases negated <;> simp
  | behind negated least most body ih =>
    simp only [run, ends, ih, findSome?_some]
    cases (if s.pos < least then none else (body.ends text { s with pos := s.pos - least }).head?) <;>
      cases negated <;> simp
  | «recall» folding group =>
    unfold run ends
    cases s.group? group with
    | none => rfl
    | some span =>
      dsimp only
      split <;> simp
  | choose group ifMatched otherwise ihMatched ihOtherwise =>
    unfold run ends
    split
    · exact ihMatched ..
    · exact ihOtherwise ..

@[simp] theorem mem_ends_empty {s s' : State} : s' ∈ Node.empty.ends text s ↔ s' = s := by
  simp [Node.ends]

@[simp] theorem mem_ends_one {test : CharTest} {s s' : State} :
    s' ∈ (Node.one test).ends text s ↔
      (∃ c, text[s.pos]? = some c ∧ test.admits c = true) ∧ s' = { s with pos := s.pos + 1 } := by
  unfold Node.ends
  cases text[s.pos]? with
  | none => simp
  | some c => by_cases hc : test.admits c = true <;> simp [hc]

@[simp] theorem mem_ends_anchor {place : Anchor} {s s' : State} :
    s' ∈ (Node.anchor place).ends text s ↔ place.holds text s.pos = true ∧ s' = s := by
  unfold Node.ends
  split <;> simp [*]

@[simp] theorem mem_ends_seq {first second : Node} {s s' : State} :
    s' ∈ (first.seq second).ends text s ↔
      ∃ middle ∈ first.ends text s, s' ∈ second.ends text middle := by
  simp [Node.ends]

@[simp] theorem mem_ends_capture {group : Nat} {body : Node} {s s' : State} :
    s' ∈ (Node.capture group body).ends text s ↔
      ∃ inner ∈ body.ends text (s.enter group), inner.leave group = s' := by
  simp [Node.ends]

def Stretch (test : Char → Bool) (text : Array Char) (start stop : Nat) : Prop :=
  ∀ i, start ≤ i → i < stop → ∃ c, text[i]? = some c ∧ test c = true

theorem Stretch.length_le {test : Char → Bool} {start n : Nat}
    (h : Stretch test text start (start + n)) : n ≤ text.size - start := by
  by_contra hbeyond
  obtain ⟨c, hc, -⟩ := h (start + (text.size - start)) (by omega) (by omega)
  rw [Array.getElem?_eq_none (by omega)] at hc
  cases hc

theorem stretch_iff_of_lt {test : Char → Bool} {start stop : Nat} (h : start < stop) :
    Stretch test text start stop ↔
      (∃ c, text[start]? = some c ∧ test c = true) ∧ Stretch test text (start + 1) stop := by
  constructor
  · exact fun hall => ⟨hall start (Nat.le_refl _) h, fun i hi => hall i (by omega)⟩
  · rintro ⟨hfirst, hrest⟩ i hi hi'
    rcases Nat.eq_or_lt_of_le hi with rfl | hi
    · exact hfirst
    · exact hrest i hi hi'

theorem le_runLength_iff {test : CharTest} {n limit pos : Nat} :
    n ≤ runLength text test limit pos ↔ n ≤ limit ∧ Stretch test.admits text pos (pos + n) := by
  induction limit generalizing n pos with
  | zero =>
    simp only [runLength, Nat.le_zero_eq]
    constructor
    · rintro rfl
      exact ⟨rfl, fun i hi hi' => by omega⟩
    · exact And.left
  | succ limit ih =>
    cases n with
    | zero =>
      simp only [Nat.zero_le, true_and, true_iff]
      exact fun i hi hi' => by omega
    | succ n =>
      rw [stretch_iff_of_lt (by omega), runLength, Nat.add_le_add_iff_right,
        show pos + (n + 1) = pos + 1 + n by omega]
      cases text[pos]? with
      | none => simp
      | some c =>
        by_cases hc : test.admits c = true
        · simp [hc, ih]
        · simp [hc]

theorem mem_runEnds {greed : Greed} (hgreed : greed ≠ .possessive) {test : CharTest} {s s' : State} :
    s' ∈ runEnds text greed least most test s ↔ ∃ n, least ≤ n ∧ (∀ m ∈ most, n ≤ m) ∧
      Stretch test.admits text s.pos (s.pos + n) ∧ s' = { s with pos := s.pos + n } := by
  have hends : s' ∈ runEnds text greed least most test s ↔ ∃ n, least ≤ n ∧
      n ≤ runLength text test ((most.getD (text.size - s.pos)).min (text.size - s.pos)) s.pos ∧
      s' = { s with pos := s.pos + n } := by
    unfold runEnds
    dsimp only
    generalize runLength text test _ s.pos = longest
    split
    · simp only [List.not_mem_nil, false_iff, not_exists]
      rintro n ⟨hleast, hlongest, -⟩
      omega
    · have hmem : (∃ i, i < longest - least + 1 ∧ { s with pos := s.pos + least + i } = s') ↔
          ∃ n, least ≤ n ∧ n ≤ longest ∧ s' = { s with pos := s.pos + n } := by
        constructor
        · rintro ⟨i, hi, rfl⟩
          exact ⟨least + i, by omega, by omega, by rw [Nat.add_assoc]⟩
        · rintro ⟨n, hleast, hlongest, rfl⟩
          exact ⟨n - least, by omega, by rw [Nat.add_assoc, Nat.add_sub_cancel' hleast]⟩
      -- Greedy and lazy runs end at the same places, in opposite orders.
      cases greed with
      | possessive => exact absurd rfl hgreed
      | greedy | lazy => simpa using hmem
  rw [hends]
  refine exists_congr fun n => and_congr_right fun _ => ?_
  rw [le_runLength_iff]
  constructor
  · rintro ⟨⟨hlimit, hstretch⟩, hs'⟩
    refine ⟨fun m hm => ?_, hstretch, hs'⟩
    rw [Option.mem_def.mp hm] at hlimit
    exact hlimit.trans (Nat.min_le_left ..)
  · rintro ⟨hmost, hstretch, hs'⟩
    have hroom := hstretch.length_le
    refine ⟨⟨Nat.le_min.mpr ⟨?_, hroom⟩, hstretch⟩, hs'⟩
    cases most with
    | none => exact hroom
    | some m => exact hmost m rfl

theorem exists_runEnds_greedy {text : Array Char} {test : CharTest} {least n : Nat} {s : State}
    (hleast : least ≤ n) (hrun : Stretch test.admits text s.pos (s.pos + n))
    (hend : ∀ c ∈ text[s.pos + n]?, test.admits c = false) :
    ∃ shorter, runEnds text .greedy least none test s = { s with pos := s.pos + n } :: shorter := by
  have hroom := hrun.length_le
  have hlongest : runLength text test (text.size - s.pos) s.pos = n := by
    apply Nat.le_antisymm
    · by_contra hlonger
      obtain ⟨-, hmore⟩ := le_runLength_iff.mp (Nat.lt_of_not_le hlonger)
      obtain ⟨c, hc, hpass⟩ := hmore (s.pos + n) (Nat.le_add_right ..) (Nat.lt_succ_self _)
      rw [hend c hc] at hpass
      cases hpass
    · exact le_runLength_iff.mpr ⟨hroom, hrun⟩
  have hlimit : ((none : Option Nat).getD (text.size - s.pos)).min (text.size - s.pos) =
      text.size - s.pos := Nat.min_self _
  unfold runEnds
  simp only [hlimit, hlongest]
  rw [if_neg (Nat.not_lt.mpr hleast), List.range_succ, List.reverse_append, List.reverse_singleton,
    List.singleton_append, List.map_cons, Nat.add_assoc, Nat.add_sub_cancel' hleast]
  exact ⟨_, rfl⟩

theorem mem_ends_many {greed : Greed} (hgreed : greed ≠ .possessive) {test : CharTest}
    {s s' : State} : s' ∈ (Node.many greed least none test).ends text s ↔ ∃ n, least ≤ n ∧
      Stretch test.admits text s.pos (s.pos + n) ∧ s' = { s with pos := s.pos + n } := by
  simp [Node.ends, mem_runEnds hgreed]

@[simp] theorem mem_ends_greedy {test : CharTest} {s s' : State} :
    s' ∈ (Node.many .greedy least none test).ends text s ↔ ∃ n, least ≤ n ∧
      Stretch test.admits text s.pos (s.pos + n) ∧ s' = { s with pos := s.pos + n } :=
  mem_ends_many (by decide)

/-- Going on from a state inside the text leads to states further on inside it. -/
def Advances (text : Array Char) (ends : State → List State) : Prop :=
  ∀ s, s.pos ≤ text.size → ∀ s' ∈ ends s, s.pos ≤ s'.pos ∧ s'.pos ≤ text.size

theorem advances_singleton : Advances text fun s => [s] := by
  intro s hs s' hs'
  obtain rfl := List.mem_singleton.mp hs'
  exact ⟨le_rfl, hs⟩

theorem Advances.flatMap {first second : State → List State} (hfirst : Advances text first)
    (hsecond : Advances text second) : Advances text fun s => (first s).flatMap second := by
  intro s hs s' hs'
  obtain ⟨middle, hmiddle, hs'⟩ := List.mem_flatMap.mp hs'
  obtain ⟨hle, hsize⟩ := hfirst s hs middle hmiddle
  obtain ⟨hle', hsize'⟩ := hsecond middle hsize s' hs'
  exact ⟨hle.trans hle', hsize'⟩

section

variable {body : State → List State}

theorem Advances.greedyEnds (hbody : Advances text body) (fuel count : Nat) (last : Option Nat) :
    Advances text (Pattern.greedyEnds body least most fuel count last) := by
  induction fuel generalizing count last with
  | zero => exact advances_singleton
  | succ fuel ih =>
    intro s hs s' hs'
    unfold Pattern.greedyEnds at hs'
    split at hs'
    · exact hbody.flatMap (ih _ _) s hs s' hs'
    · split at hs'
      · rcases List.mem_append.mp hs' with hs' | hs'
        · exact hbody.flatMap (ih _ _) s hs s' hs'
        · exact advances_singleton s hs s' hs'
      · exact advances_singleton s hs s' hs'

theorem mem_lazyEnds {fuel count : Nat} {last : Option Nat} {s s' : State} :
    s' ∈ lazyEnds body least most fuel count last s ↔
      s' ∈ greedyEnds body least most fuel count last s := by
  induction fuel generalizing count last s with
  | zero => rfl
  | succ fuel ih =>
    unfold lazyEnds greedyEnds
    split
    · simp only [List.mem_flatMap, ih]
    · split
      · simp only [List.mem_cons, List.mem_append, List.mem_flatMap, ih, List.not_mem_nil, or_false]
        exact or_comm
      · rfl

theorem mem_greedyEnds_of_passes {fuel count : Nat} {last : Option Nat} {s s' : State}
    (h : passes (fun s next => (body s).findSome? next) least most fuel count last s = some s') :
    s' ∈ greedyEnds body least most fuel count last s := by
  induction fuel generalizing count last s with
  | zero =>
    obtain rfl := Option.some.inj h
    exact List.mem_singleton_self _
  | succ fuel ih =>
    unfold passes at h
    unfold greedyEnds
    simp only [findSome?_some] at h
    -- Each pass takes the first end of the body, which is one of those that are tried.
    split at h
    · rename_i hcount
      rw [if_pos hcount]
      obtain ⟨middle, hmiddle, h⟩ := Option.bind_eq_some_iff.mp h
      exact List.mem_flatMap.mpr ⟨middle, List.mem_of_head? hmiddle, ih h⟩
    · rename_i hcount
      rw [if_neg hcount]
      split at h
      · rename_i hagain
        rw [if_pos hagain]
        split at h
        · rename_i middle hmiddle
          exact List.mem_append_left _
            (List.mem_flatMap.mpr ⟨middle, List.mem_of_head? hmiddle, ih h⟩)
        · obtain rfl := Option.some.inj h
          exact List.mem_append_right _ (List.mem_singleton_self _)
      · rename_i hagain
        rw [if_neg hagain]
        obtain rfl := Option.some.inj h
        exact List.mem_singleton_self _

end

theorem spells_le_size {folding : Folding} {spelling : List Char} {pos : Nat}
    (h : spells text folding pos spelling = true) (hpos : pos ≤ text.size) :
    pos + spelling.length ≤ text.size := by
  induction spelling generalizing pos with
  | nil => exact hpos
  | cons c rest ih =>
    unfold spells at h
    cases hc : text[pos]? with
    | none => simp [hc] at h
    | some d =>
      have hlt : pos < text.size := (Array.getElem?_eq_some_iff.mp hc).1
      rw [hc, Bool.and_eq_true] at h
      have := ih h.2 hlt
      rw [List.length_cons]
      omega

theorem Node.ends_advances (text : Array Char) (node : Node) : Advances text (node.ends text) := by
  induction node with
  | empty => exact advances_singleton
  | one test =>
    intro s hs s' hs'
    unfold ends at hs'
    cases hc : text[s.pos]? with
    | none => simp [hc] at hs'
    | some c =>
      have hlt : s.pos < text.size := (Array.getElem?_eq_some_iff.mp hc).1
      simp only [hc] at hs'
      split at hs'
      · obtain rfl := List.mem_singleton.mp hs'
        exact ⟨Nat.le_succ _, hlt⟩
      · cases hs'
  | anchor place =>
    intro s hs s' hs'
    unfold ends at hs'
    split at hs'
    · exact advances_singleton s hs s' hs'
    · cases hs'
  | seq first second ihFirst ihSecond => exact ihFirst.flatMap ihSecond
  | alt first second ihFirst ihSecond =>
    intro s hs s' hs'
    rcases List.mem_append.mp hs' with hs' | hs'
    · exact ihFirst s hs s' hs'
    · exact ihSecond s hs s' hs'
  | capture group body ih =>
    intro s hs s' hs'
    obtain ⟨inner, hinner, rfl⟩ := List.mem_map.mp hs'
    exact ih (s.enter group) hs inner hinner
  | many greed least most test =>
    intro s hs s' hs'
    have hstep : ∃ n, Stretch test.admits text s.pos (s.pos + n) ∧
        s' = { s with pos := s.pos + n } := by
      by_cases hgreed : greed = .possessive
      · subst hgreed
        simp only [ends, runEnds] at hs'
        split at hs'
        · cases hs'
        · exact ⟨_, (le_runLength_iff.mp le_rfl).2, List.mem_singleton.mp hs'⟩
      · obtain ⟨n, -, -, hrest⟩ := (mem_runEnds hgreed).mp hs'
        exact ⟨n, hrest⟩
    obtain ⟨n, hstretch, rfl⟩ := hstep
    have hroom := hstretch.length_le
    exact ⟨Nat.le_add_right _ _, by simp only; omega⟩
  | «repeated» greed least most body ih =>
    intro s hs s' hs'
    unfold ends at hs'
    cases greed with
    | greedy => exact ih.greedyEnds _ _ _ s hs s' hs'
    | lazy => exact ih.greedyEnds _ _ _ s hs s' (mem_lazyEnds.mp hs')
    | possessive =>
      exact ih.greedyEnds _ _ _ s hs s' (mem_greedyEnds_of_passes (Option.mem_toList.mp hs'))
  | atomic body ih =>
    intro s hs s' hs'
    exact ih s hs s' (List.mem_of_head? (Option.mem_toList.mp hs'))
  | ahead negated body ih | behind negated least most body ih =>
    -- What is looked at ahead or behind is not passed.
    intro s hs s' hs'
    have hpos : s'.pos = s.pos := by
      simp only [ends] at hs'
      split at hs' <;> cases negated <;> simp_all
    exact ⟨hpos.ge, hpos ▸ hs⟩
  | «recall» folding group =>
    intro s hs s' hs'
    unfold ends at hs'
    cases hgroup : s.group? group with
    | none => simp [hgroup] at hs'
    | some span =>
      simp only [hgroup] at hs'
      split at hs'
      · rename_i hspells
        obtain rfl := List.mem_singleton.mp hs'
        exact ⟨Nat.le_add_right _ _, spells_le_size hspells hs⟩
      · cases hs'
  | choose group ifMatched otherwise ihMatched ihOtherwise =>
    intro s hs s' hs'
    unfold ends at hs'
    split at hs'
    · exact ihMatched s hs s' hs'
    · exact ihOtherwise s hs s' hs'

end TestReach.Pattern
