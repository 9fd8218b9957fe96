import TestReach.Proofs.Ambiguity
import TestReach.Proofs.Trace.Exactness

namespace TestReach

namespace Trace

open Relation

variable {survey : Survey} {depth : Nat} {task : Task} {claimed : List String}
  {cases : TestCase.Cases} {trail : Trail} {term : Term}

/-- The results that the round of a term keeps; none if it cannot be made. -/
def kept (survey : Survey) (term : Term) : List FileResult :=
  match survey term with
  | .error _ => []
  | .ok (results, _) => (Round.classify results).results

def Task.Reaches (survey : Survey) : Task → Term → Prop
  | trace term, last => TransGen (Leads survey) term last
  | follow _ uses, last =>
    ∃ m ∈ uses, ∃ next, m.Within next ∧ ReflTransGen (Leads survey) next last

structure Trail.Explores (survey : Survey) (task : Task) (claimed : List String) (trail : Trail) :
    Prop where
  nodup : trail.claimed.Nodup
  fresh : ∀ text ∈ trail.claimed, text ∉ claimed
  scanned : (trail.scanned.map Term.text).Sublist (task.entry ++ trail.claimed)
  opens : ∀ first ∈ trail.scanned.take task.entry.length, task = .trace first
  reached : ∀ last ∈ trail.scanned.drop task.entry.length, task.Reaches survey last
  committed : trail.committed = trail.scanned.flatMap (kept survey)

theorem Trail.Explores.scanned_trace (h : trail.Explores survey (.trace term) claimed) :
    trail.scanned = [] ∨ ∃ later, trail.scanned = term :: later ∧
      ∀ last ∈ later, TransGen (Leads survey) term last := by
  cases hscanned : trail.scanned with
  | nil => exact Or.inl rfl
  | cons first later =>
    have hfirst : Task.trace term = .trace first := h.opens first (by simp [hscanned])
    cases hfirst
    exact Or.inr ⟨later, rfl, fun last hlast => h.reached last (by simpa [hscanned] using hlast)⟩

theorem Trail.Explores.nothing : ({} : Trail).Explores survey task claimed := by
  constructor <;> simp

theorem Trail.Explores.skip {found : TestCase.Cases} {m : Match} {rest : List Match}
    (h : trail.Explores survey (.follow found rest) claimed) :
    trail.Explores survey (.follow found (m :: rest)) claimed where
  nodup := h.nodup
  fresh := h.fresh
  scanned := h.scanned
  opens := by simp
  reached last hlast := by
    obtain ⟨m', hm', hrest⟩ := h.reached last hlast
    exact ⟨m', List.mem_cons_of_mem _ hm', hrest⟩
  committed := h.committed

theorem Trail.Explores.claim {found found' : TestCase.Cases} {m : Match} {rest : List Match}
    {next : Term} {first second : Trail} (hwithin : m.Within next) (hnew : next.text ∉ claimed)
    (hfirst : first.Explores survey (.trace next) (claimed ++ [next.text]))
    (hsecond : second.Explores survey (.follow found' rest)
      (claimed ++ [next.text] ++ first.claimed)) :
    ({ claimed := [next.text] } ++ first ++ second : Trail).Explores survey
      (.follow found (m :: rest)) claimed where
  nodup := (claims_fresh_append hnew ⟨hfirst.nodup, hfirst.fresh⟩ ⟨hsecond.nodup, hsecond.fresh⟩).1
  fresh := (claims_fresh_append hnew ⟨hfirst.nodup, hfirst.fresh⟩ ⟨hsecond.nodup, hsecond.fresh⟩).2
  scanned := by
    simpa using hfirst.scanned.append hsecond.scanned
  opens := by simp
  reached last hlast := by
    simp only [Task.entry, List.length_nil, List.drop_zero, Trail.scanned_append, List.nil_append,
      List.mem_append] at hlast
    rcases hlast with hlast | hlast
    · refine ⟨m, List.mem_cons_self, next, hwithin, ?_⟩
      rcases hfirst.scanned_trace with hnone | ⟨later, hscanned, hlater⟩
      · simp [hnone] at hlast
      · rw [hscanned, List.mem_cons] at hlast
        rcases hlast with rfl | hlast
        · exact .refl
        · exact (hlater last hlast).to_reflTransGen
    · obtain ⟨m', hm', hrest⟩ := hsecond.reached last (by simpa using hlast)
      exact ⟨m', List.mem_cons_of_mem _ hm', hrest⟩
  committed := by simp [hfirst.committed, hsecond.committed]

theorem Trail.Explores.round {results : List FileResult} {records : List Log.Record}
    (hsurvey : survey term = .ok (results, records))
    (hround : (Round.classify results).decision ≠ .ambiguous)
    (h : trail.Explores survey (.follow [] (usesOf (Round.classify results).results)) claimed) :
    ({ scanned := [term], committed := (Round.classify results).results } ++ trail :
      Trail).Explores survey (.trace term) claimed where
  nodup := by simpa using h.nodup
  fresh := by simpa using h.fresh
  scanned := by simpa using h.scanned
  opens := by simp
  reached last hlast := by
    obtain ⟨m, hm, next, hwithin, hreached⟩ := h.reached last (by simpa using hlast)
    have hleads : Leads survey term next := (leads_iff hsurvey).mpr ⟨hround, m, hm, hwithin⟩
    exact TransGen.head' hleads hreached
  committed := by simp [h.committed, kept, hsurvey]

theorem Trail.Explores.scan (h : kept survey term = []) :
    ({ scanned := [term] } : Trail).Explores survey (.trace term) claimed := by
  constructor <;> simp [h]

theorem exists_trail_of_follow {trace : Term → Journal → Outcome}
    (htrace : ∀ (next : Term) (journal : Journal), ∃ trail : Trail,
      journal.Adds trail (trace next journal).2 ∧
        trail.Explores survey (.trace next) journal.claimed)
    (term : Term) (uses : List Match) (found : TestCase.Cases) (journal : Journal) :
    ∃ trail, journal.Adds trail (follow trace term found uses journal).2 ∧
      trail.Explores survey (.follow found uses) journal.claimed := by
  induction uses generalizing found journal with
  | nil => exact ⟨{}, .refl journal, .nothing⟩
  | cons m rest ih =>
    rw [follow_cons]
    split
    · obtain ⟨trail, hadds, hexplores⟩ := ih found (journal.note .warning (orphanMessage m))
      exact ⟨trail, ⟨hadds.claimed, hadds.scanned, hadds.committed⟩, hexplores.skip⟩
    rename_i hroutine
    split
    · exact ⟨{}, .refl journal, .nothing⟩
    rename_i next hnext
    split
    · obtain ⟨trail, hadds, hexplores⟩ := ih found journal
      exact ⟨trail, hadds, hexplores.skip⟩
    rename_i hnew
    obtain ⟨first, haddsFirst, hfirst⟩ := htrace next ((journal.adding next.text).extended term next)
    have hclaim : journal.Adds { claimed := [next.text] } ((journal.adding next.text).extended term next) := by
      constructor <;> simp [Journal.extended, Journal.adding, Journal.note]
    -- The trace of the name ends here where it fails; else the rest is followed with its claims.
    split
    · rename_i failed middle hmore
      rw [hmore] at haddsFirst
      have hnone : ({} : Trail).Explores survey (.follow found rest)
          (journal.claimed ++ [next.text] ++ first.claimed) := .nothing
      exact ⟨_, (hclaim.trans haddsFirst).trans (.refl middle),
        .claim ⟨hroutine, hnext⟩ hnew hfirst hnone⟩
    · rename_i more middle hmore
      rw [hmore] at haddsFirst
      obtain ⟨second, haddsSecond, hsecond⟩ := ih (found.merge more) middle
      rw [haddsFirst.claimed] at hsecond
      exact ⟨_, (hclaim.trans haddsFirst).trans haddsSecond,
        .claim ⟨hroutine, hnext⟩ hnew hfirst hsecond⟩

theorem exists_trail_of_run (survey : Survey) (depth : Nat) (term : Term) (journal : Journal) :
    ∃ trail, journal.Adds trail (run survey depth term journal).2 ∧
      trail.Explores survey (.trace term) journal.claimed := by
  induction depth generalizing term journal with
  | zero => exact ⟨{}, .refl journal, .nothing⟩
  | succ depth ih =>
    -- The scan fails, the round is ambiguous, or its uses are followed.
    rw [run_succ]
    split
    · rename_i error hfailed
      refine ⟨{ scanned := [term] }, ?_, .scan (by simp [kept, hfailed])⟩
      constructor <;> simp [Journal.begun, Journal.note]
    rename_i results records hsurvey
    dsimp only
    split
    · rename_i hround
      refine ⟨{ scanned := [term] }, ?_,
        .scan (by simp [kept, hsurvey, Round.results_of_ambiguous hround])⟩
      constructor <;> simp [Journal.discarded, Journal.logged, Journal.begun, Journal.note]
    rename_i hround
    obtain ⟨trail, hadds, hexplores⟩ := exists_trail_of_follow (fun next journal => ih next journal)
      term (usesOf (Round.classify results).results) []
      (((journal.begun term (depth + 1)).logged records).commits term (Round.classify results).results
        (casesOf (Round.classify results).results).length
        (othersOf (Round.classify results).results).length)
    refine ⟨_, ?_, .round hsurvey hround hexplores⟩
    split
    all_goals
      rename_i hmore
      rw [hmore] at hadds
      refine Journal.Adds.trans ?_ hadds
      constructor <;> simp [Journal.commits, Journal.logged, Journal.begun, Journal.note]

theorem Returns.mem_claimed_iff_reached (h : Returns survey depth (.trace term) [] cases trail)
    (hdepth : (reachedTexts survey [term]).encard < depth) {text : String} :
    text ∈ trail.claimed ↔ text ∈ reachedTexts survey [term] := by
  have hleads : ∀ last ∈ trail.scanned, ∀ next, Leads survey last next →
      next.text ∈ trail.claimed := by
    rintro last hlast next ⟨result, hkeeps, hnames⟩
    have hcommitted := h.mem_committed.mpr ⟨last, hlast, hkeeps⟩
    simpa using h.claimed_of_named (Or.inr ⟨result, hcommitted, hnames⟩)
  have hscanned : ∀ last, ReflTransGen (Leads survey) term last → last ∈ trail.scanned := by
    intro last hreached
    induction hreached with
    | refl => exact h.mem_scanned (by exact_mod_cast pos_of_gt hdepth)
    | @tail middle next _ hnext ih =>
      obtain ⟨next', hnext', hsame, m', hwithin'⟩ :=
        h.exists_scanned (h.scanned_eq_of_depth hdepth) (hleads middle ih next hnext)
      obtain ⟨-, -, -, m, -, hwithin⟩ := hnext
      rwa [← hwithin'.ext hwithin hsame]
  constructor
  · intro htext
    obtain ⟨next, rfl, hnames⟩ := h.named_of_claimed htext
    obtain ⟨result, hresult, hnames⟩ := hnames.resolve_left (by simp)
    obtain ⟨last, hlast, hkeeps⟩ := h.mem_committed.mp hresult
    exact ⟨term, List.mem_singleton_self _, next,
      TransGen.tail' (h.reached_of_scanned hlast) ⟨result, hkeeps, hnames⟩, rfl⟩
  · rintro ⟨root, hroot, next, hreached, rfl⟩
    obtain rfl := List.mem_singleton.mp hroot
    obtain ⟨middle, hmiddle, hnext⟩ := TransGen.tail'_iff.mp hreached
    exact hleads middle (hscanned middle hmiddle) next hnext

/-- With enough depth a text is scanned for twice just when rounds lead from the root to its own text. -/
theorem Returns.nodup_scanned_iff (h : Returns survey depth (.trace term) [] cases trail)
    (hdepth : (reachedTexts survey [term]).encard < depth) :
    (trail.scanned.map Term.text).Nodup ↔ term.text ∉ reachedTexts survey [term] := by
  rw [h.scanned_eq_of_depth hdepth, List.nodup_cons, h.mem_claimed_iff_reached hdepth,
    and_iff_left h.claimed_fresh.1]

/-- In a trace that begins without claims every later scan is for a text of its own, and each scan
commits what its round keeps. So no text is scanned for twice unless it is that of the root and a use
leads back to it; with more depth than there are texts to reach, it is whenever one does. -/
theorem scans_repeat_iff_root_reached (scanner : Scanner) (disk : Disk) (root : Path) (depth : Nat)
    (term : Term) {outcome : Outcome} (h : inTree scanner disk root depth term {} = outcome) :
    ∃ own later, outcome.2.scanned = own ++ later ∧ (own = [] ∧ later = [] ∨ own = [term]) ∧
      (later.map Term.text).Nodup ∧
      outcome.2.committed = outcome.2.scanned.flatMap (kept (scanner.survey disk root)) ∧
      ((outcome.2.scanned.map Term.text).Nodup ↔ term.text ∉ later.map Term.text) ∧
      (∀ next ∈ later, TransGen (Leads (scanner.survey disk root)) term next) ∧
      ((∃ cases, outcome.1 = .ok cases) →
        (reachedTexts (scanner.survey disk root) [term]).encard < depth →
        ((outcome.2.scanned.map Term.text).Nodup ↔
          term.text ∉ reachedTexts (scanner.survey disk root) [term])) := by
  unfold inTree at h
  subst h
  obtain ⟨trail, hadds, hexplores⟩ :=
    exists_trail_of_run (scanner.survey disk root) depth term {}
  have hscanned := hadds.scanned
  have hcommitted := hadds.committed
  rw [List.nil_append] at hscanned hcommitted
  -- What enough depth comes to is known of traces that return, which have derivations.
  have hdeep : (∃ cases, (run (scanner.survey disk root) depth term {}).1 = .ok cases) →
      (reachedTexts (scanner.survey disk root) [term]).encard < depth →
      ((trail.scanned.map Term.text).Nodup ↔
        term.text ∉ reachedTexts (scanner.survey disk root) [term]) := by
    rintro ⟨cases, hcases⟩ hdepth
    obtain ⟨trail', hreturns, hadds'⟩ := returns_of_run depth term {} (Prod.ext hcases rfl)
    have hsame : trail'.scanned = trail.scanned := by
      rw [← hscanned, hadds'.scanned, List.nil_append]
    rw [← hsame]
    exact hreturns.nodup_scanned_iff hdepth
  rw [hscanned, hcommitted, hexplores.committed]
  rcases hexplores.scanned_trace with hnone | ⟨later, hterm, hreached⟩
  · exact ⟨[], [], hnone, Or.inl ⟨rfl, rfl⟩, List.nodup_nil, rfl, by simp [hnone], by simp, hdeep⟩
  · have hsublist : (later.map Term.text).Sublist trail.claimed := by
      simpa [hterm] using hexplores.scanned
    have hlater : (later.map Term.text).Nodup := hsublist.nodup hexplores.nodup
    refine ⟨[term], later, hterm, Or.inr rfl, hlater, rfl, ?_, hreached, hdeep⟩
    rw [hterm, List.map_cons, List.nodup_cons, and_iff_left hlater]

end Trace

namespace Sample

def loopTree : Disk where
  entries :=
    [(["r"], .directory),
      (["r", "a.py"], .file "def f():\n f()\n".toUTF8.toList)]

theorem loop_survey : scanner.survey loopTree root =
    fun term => .ok (scanner.visitAll loopTree recursiveFiles term) := by
  have hselect : SourceFiles.select loopTree false
      [.below, .like (Glob.pieces ['*', '.', 'p', 'y'])] root = recursiveFiles := by decide +kernel
  have hfiles := files_of_select (by decide +kernel) hselect (List.pairwise_singleton _ _)
  refine Scanner.survey_of_files (hfiles.trans ?_)
  exact congrArg Except.ok (by decide +kernel)

end Sample

namespace Trace

theorem loop_scans_repeat : ¬ ((inTree Sample.scanner Sample.loopTree Sample.root 2
    Sample.recursiveTerm {}).2.scanned.map Term.text).Nodup := by
  rw [inTree, Sample.loop_survey]
  decide +kernel

/-- A routine that calls itself is scanned for twice when a trace begins with it. -/
theorem root_text_scanned_twice :
    ¬ ∀ (scanner : Scanner) (disk : Disk) (root : Path) (depth : Nat) (term : Term),
      ((inTree scanner disk root depth term {}).2.scanned.map Term.text).Nodup := by
  intro h
  exact loop_scans_repeat (h Sample.scanner Sample.loopTree Sample.root 2 Sample.recursiveTerm)

/-- Rounds lead from the routine to its own text, so that the second scan is for its claim. -/
theorem sample_root_reached : ∃ outcome,
    inTree Sample.scanner Sample.loopTree Sample.root 2 Sample.recursiveTerm {} = outcome ∧
    ∃ later, outcome.2.scanned = Sample.recursiveTerm :: later ∧
      Sample.recursiveTerm.text ∈ later.map Term.text ∧
      ∃ next ∈ later, next.text = Sample.recursiveTerm.text ∧
        Relation.TransGen (Leads (Sample.scanner.survey Sample.loopTree Sample.root))
          Sample.recursiveTerm next := by
  obtain ⟨own, later, hscanned, hown, -, -, hnodup, hreached, -⟩ :=
    scans_repeat_iff_root_reached Sample.scanner Sample.loopTree Sample.root 2 Sample.recursiveTerm rfl
  have htext : Sample.recursiveTerm.text ∈ later.map Term.text := by
    by_contra hnot
    exact loop_scans_repeat (hnodup.mpr hnot)
  rcases hown with ⟨-, rfl⟩ | rfl
  · cases htext
  · obtain ⟨next, hnext, hsame⟩ := List.mem_map.mp htext
    exact ⟨_, rfl, later, hscanned, htext, next, hnext, hsame, hreached next hnext⟩

end Trace
end TestReach
