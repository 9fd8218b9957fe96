import Mathlib.Data.Set.Card
import TestReach.Proofs.Scan
import TestReach.Proofs.Trace.Session
import TestReach.Proofs.Trace.Soundness

namespace TestReach.Trace

open Relation

variable {survey : Survey} {depth : Nat} {task : Task} {claimed : List String}
  {cases : TestCase.Cases} {trail : Trail} {term : Term} {reached : Set Term} {names : Finset String}

theorem Returns.mem_scanned (h : Returns survey depth (.trace term) claimed cases trail)
    (hdepth : 0 < depth) : term ∈ trail.scanned := by
  cases h with
  | spent => cases hdepth
  | ambiguous | round => simp

theorem Returns.reached_of_scanned (h : Returns survey depth (.trace term) claimed cases trail)
    {last : Term} (hlast : last ∈ trail.scanned) : ReflTransGen (Leads survey) term last := by
  obtain ⟨_, steps, rfl, -, hchain, hend, -, -⟩ := h.chain_of_scanned hlast
  apply List.relationReflTransGen_of_exists_isChain_cons steps hchain
  exact Option.some.inj ((List.getLast?_eq_some_getLast _).symm.trans hend)

theorem card_unclaimed_claim {text : String} (hname : text ∈ names) (hnew : text ∉ claimed) :
    (names \ (claimed ++ [text]).toFinset).card + 1 = (names \ claimed.toFinset).card := by
  have herase : names \ (claimed ++ [text]).toFinset = (names \ claimed.toFinset).erase text := by
    ext other
    simp only [List.toFinset_append, Finset.mem_sdiff, Finset.mem_union, Finset.mem_erase,
      List.mem_toFinset, List.mem_singleton]
    tauto
  rw [herase]
  exact Finset.card_erase_add_one (by simp [hname, hnew])

theorem card_unclaimed_le (names : Finset String) (claimed more : List String) :
    (names \ (claimed ++ more).toFinset).card ≤ (names \ claimed.toFinset).card := by
  apply Finset.card_le_card
  apply Finset.sdiff_subset_sdiff (Finset.Subset.refl _)
  intro text htext
  rw [List.toFinset_append]
  exact Finset.mem_union_left _ htext

/-- The unclaimed names pay for the depth: each claim takes one of them and one round. So all that is
claimed is scanned for, in the order of the claims. -/
theorem Returns.scanned_eq_of_budget (h : Returns survey depth task claimed cases trail)
    (hclosed : ∀ t ∈ reached, ∀ next, Leads survey t next → next ∈ reached ∧ next.text ∈ names)
    (hstarts : ∀ first, task.Starts first → first ∈ reached)
    (huses : ∀ m ∈ task.uses, ∀ next, m.Within next → next.text ∈ names)
    (hbudget : (names \ claimed.toFinset).card + task.entry.length ≤ depth) :
    trail.scanned.map Term.text = task.entry ++ trail.claimed := by
  induction h with
  | spent => simp at hbudget
  | ambiguous | done => simp
  | round hsurvey hround _ ih =>
    have hleads : ∀ m ∈ usesOf _, ∀ next, m.Within next → next ∈ reached ∧ next.text ∈ names :=
      fun m hm next hwithin => hclosed _ (hstarts _ rfl) next
        ((leads_iff hsurvey).mpr ⟨hround, m, hm, hwithin⟩)
    have hrest := ih (fun first ⟨m, hm, hwithin⟩ => (hleads m hm first hwithin).1)
      (fun m hm next hwithin => (hleads m hm next hwithin).2) (by simpa using hbudget)
    simpa using hrest
  | orphan _ _ ih | known _ _ _ ih =>
    exact ih (fun first ⟨m, hm, hwithin⟩ => hstarts first ⟨m, List.mem_cons_of_mem _ hm, hwithin⟩)
      (fun m hm => huses m (List.mem_cons_of_mem _ hm)) hbudget
  | @extended depth _ m _ claimed _ _ first second new hwithin hnew hfirst _ ihFirst ihRest =>
    have hspent := card_unclaimed_claim (huses m List.mem_cons_self new hwithin) hnew
    have hless := card_unclaimed_le names (claimed ++ [new.text]) first.claimed
    simp only [Task.entry, List.length_nil, Nat.add_zero] at hbudget
    -- The claim itself was paid for, so there is a round left to scan for its term.
    have hscanned := ihFirst
      (fun first hfirst => hstarts first ⟨m, List.mem_cons_self, hfirst ▸ hwithin⟩) (by simp)
      (by simp only [Task.entry, List.length_singleton]; omega)
    have hrest := ihRest
      (fun first ⟨m, hm, hwithin⟩ => hstarts first ⟨m, List.mem_cons_of_mem _ hm, hwithin⟩)
      (fun m hm => huses m (List.mem_cons_of_mem _ hm))
      (by simp only [Task.entry, List.length_nil]; omega)
    simpa [hscanned] using hrest

theorem Returns.exists_scanned (h : Returns survey depth task claimed cases trail)
    (hscanned : trail.scanned.map Term.text = task.entry ++ trail.claimed) {text : String}
    (htext : text ∈ trail.claimed) :
    ∃ next ∈ trail.scanned, next.text = text ∧ ∃ m : Match, m.Within next := by
  have hlater : (trail.scanned.drop task.entry.length).map Term.text = trail.claimed := by
    rw [List.map_drop, hscanned, List.drop_left]
  obtain ⟨next, hnext, rfl⟩ := List.mem_map.mp (hlater ▸ htext)
  rcases h.named_of_scanned hnext with ⟨m, -, hwithin⟩ | ⟨-, -, -, m, -, hwithin⟩
  all_goals exact ⟨next, List.mem_of_mem_drop hnext, rfl, m, hwithin⟩

theorem run_of_survey_error {error : SourceFiles.ListError} (h : survey term = .error error)
    (hdepth : 0 < depth) (journal : Journal) :
    (run survey depth term journal).1 = .error (.files error) := by
  cases depth with
  | zero => cases hdepth
  | succ depth => rw [run_succ, h]

theorem follow_returns {trace : Term → Journal → Outcome}
    (htrace : ∀ next ∈ reached, ∀ journal, ∃ cases, (trace next journal).1 = .ok cases)
    (term : Term) (uses : List Match)
    (huses : ∀ m ∈ uses, m.routine ≠ "" → ∃ next, m.Within next ∧ next ∈ reached)
    (found : TestCase.Cases) (journal : Journal) :
    ∃ cases, (follow trace term found uses journal).1 = .ok cases := by
  induction uses generalizing found journal with
  | nil => exact ⟨found, rfl⟩
  | cons m rest ih =>
    have hrest := ih fun m' hm' => huses m' (List.mem_cons_of_mem _ hm')
    rw [follow_cons]
    split
    · exact hrest _ _
    · rename_i hroutine
      obtain ⟨next, ⟨-, hnext⟩, hmem⟩ := huses m List.mem_cons_self hroutine
      simp only [hnext]
      split
      · exact hrest _ _
      · obtain ⟨more, hmore⟩ := htrace next hmem ((journal.adding next.text).extended term next)
        split
        · rename_i hfailed
          rw [hfailed] at hmore
          cases hmore
        · exact hrest _ _

/-- A trace returns where every round can be made and every name makes a term. -/
theorem run_returns (reached : Set Term)
    (hclosed : ∀ t ∈ reached, ∀ next, Leads survey t next → next ∈ reached)
    (hsurvey : ∀ t ∈ reached, ∃ found, survey t = .ok found)
    (hnames : ∀ t ∈ reached, ∀ result, Keeps survey t result → result.info.identifier = "" →
      ∀ m ∈ result.hits, m.routine ≠ "" → ∃ next, m.Within next)
    (depth : Nat) {term : Term} (hterm : term ∈ reached) (journal : Journal) :
    ∃ cases, (run survey depth term journal).1 = .ok cases := by
  induction depth generalizing term journal with
  | zero => exact ⟨[], rfl⟩
  | succ depth ih =>
    obtain ⟨⟨results, records⟩, hresults⟩ := hsurvey term hterm
    rw [run_succ]
    simp only [hresults]
    split
    · exact ⟨[], rfl⟩
    · rename_i hround
      -- Uses lead to terms that are reached, too, so that the induction covers the traces of their terms.
      have huses : ∀ m ∈ usesOf (Round.classify results).results, m.routine ≠ "" →
          ∃ next, m.Within next ∧ next ∈ reached := by
        intro m hm hroutine
        obtain ⟨result, hresult, hid, hhit⟩ := mem_usesOf.mp hm
        obtain ⟨next, hwithin⟩ := hnames term hterm result
          ((keeps_iff hresults).mpr ⟨hround, hresult⟩) hid m hhit hroutine
        exact ⟨next, hwithin, hclosed term hterm next
          ((leads_iff hresults).mpr ⟨hround, m, hm, hwithin⟩)⟩
      split
      · rename_i hfailed
        obtain ⟨more, hmore⟩ := follow_returns (fun next hnext => ih hnext) term _ huses [] _
        rw [hfailed] at hmore
        cases hmore
      · exact ⟨_, rfl⟩

theorem mem_session_scans_of_root {traces : List (Term × Nat)} {start : List String}
    (h : (session survey traces start).AllReturn) (hdepth : ∀ trace ∈ traces, 0 < trace.2)
    {trace : Term × Nat} (htrace : trace ∈ traces) :
    trace.1 ∈ (session survey traces start).scans := by
  refine session_induction (motive := fun traces _ s => (∀ trace ∈ traces, 0 < trace.2) →
    trace ∈ traces → trace.1 ∈ s.scans) ?_ ?_ traces start h hdepth htrace
  · simp
  · intro term depth rest claimed cases trail outcome later hreturns _ hscanned _ ih hdepth htrace
    simp only [Session.scans, List.flatMap_cons, List.mem_append, hscanned] at ih ⊢
    rcases List.mem_cons.mp htrace with rfl | htrace
    · exact Or.inl (hreturns.mem_scanned (hdepth _ List.mem_cons_self))
    · exact Or.inr (ih (fun other hother => hdepth other (List.mem_cons_of_mem _ hother)) htrace)

theorem reached_of_mem_session_scans {traces : List (Term × Nat)} {start : List String}
    (h : (session survey traces start).AllReturn) {last : Term}
    (hlast : last ∈ (session survey traces start).scans) :
    ∃ root ∈ traces.map (·.1), ReflTransGen (Leads survey) root last := by
  refine session_induction (motive := fun traces _ s => last ∈ s.scans →
    ∃ root ∈ traces.map (·.1), ReflTransGen (Leads survey) root last) ?_ ?_ traces start h hlast
  · simp [Session.scans]
  · intro term depth rest claimed cases trail outcome later hreturns _ hscanned _ ih hlast
    simp only [Session.scans, List.flatMap_cons, List.mem_append, hscanned] at ih hlast
    rcases hlast with hlast | hlast
    · exact ⟨term, List.mem_cons_self, hreturns.reached_of_scanned hlast⟩
    · obtain ⟨root, hroot, hreached⟩ := ih hlast
      exact ⟨root, List.mem_cons_of_mem _ hroot, hreached⟩

theorem session_scanned_of_claimed {traces : List (Term × Nat)} {start : List String}
    (h : (session survey traces start).AllReturn) (reached : Set Term) (names : Finset String)
    (hclosed : ∀ t ∈ reached, ∀ next, Leads survey t next → next ∈ reached ∧ next.text ∈ names)
    (htraces : ∀ trace ∈ traces, trace.1 ∈ reached ∧ names.card < trace.2) {text : String}
    (htext : text ∈ (session survey traces start).claimed) :
    text ∈ start ∨ ∃ next ∈ (session survey traces start).scans,
      next.text = text ∧ ∃ m : Match, m.Within next := by
  refine session_induction (motive := fun traces start s =>
    (∀ trace ∈ traces, trace.1 ∈ reached ∧ names.card < trace.2) → text ∈ s.claimed →
      text ∈ start ∨ ∃ next ∈ s.scans, next.text = text ∧ ∃ m : Match, m.Within next)
    ?_ ?_ traces start h htraces htext
  · exact fun start _ htext => Or.inl htext
  · intro term depth rest claimed cases trail outcome later hreturns _ hscanned _ ih htraces htext
    obtain ⟨hterm, hdepth⟩ := htraces _ List.mem_cons_self
    have hbudget : (names \ claimed.toFinset).card + 1 ≤ depth :=
      (Nat.add_le_add_right (Finset.card_le_card Finset.sdiff_subset) 1).trans hdepth
    simp only [Session.scans, List.flatMap_cons, List.mem_append, hscanned] at ih ⊢
    have hlater := ih (fun other hother => htraces other (List.mem_cons_of_mem _ hother)) htext
    rcases hlater with (htext | htext) | ⟨next, hnext, hrest⟩
    · exact Or.inl htext
    · obtain ⟨next, hnext, hrest⟩ := hreturns.exists_scanned (hreturns.scanned_eq_of_budget hclosed
        (fun first hfirst => hfirst ▸ hterm) (by simp) hbudget) htext
      exact Or.inr ⟨next, Or.inl hnext, hrest⟩
    · exact Or.inr ⟨next, Or.inr hnext, hrest⟩

def reachedTerms (survey : Survey) (roots : List Term) : Set Term :=
  {term | ∃ root ∈ roots, ReflTransGen (Leads survey) root term}

/-- The texts of the terms that rounds lead to from `roots` in one or more steps. -/
def reachedTexts (survey : Survey) (roots : List Term) : Set String :=
  {text | ∃ root ∈ roots, ∃ term, TransGen (Leads survey) root term ∧ term.text = text}

/-- Wherever rounds lead from `roots`, the routines around uses have whole-word terms. -/
def NamesCompile (survey : Survey) (roots : List Term) : Prop :=
  ∀ term ∈ reachedTerms survey roots, ∀ result, Keeps survey term result →
    result.info.identifier = "" → ∀ m ∈ result.hits, m.routine ≠ "" → ∃ next, m.Within next

theorem reached_of_leads {roots : List Term} {next : Term} (hterm : term ∈ reachedTerms survey roots)
    (hleads : Leads survey term next) :
    next ∈ reachedTerms survey roots ∧ next.text ∈ reachedTexts survey roots := by
  obtain ⟨root, hroot, hreached⟩ := hterm
  exact ⟨⟨root, hroot, hreached.tail hleads⟩,
    ⟨root, hroot, next, TransGen.tail' hreached hleads, rfl⟩⟩

theorem Returns.scanned_eq_of_depth (h : Returns survey depth (.trace term) [] cases trail)
    (hdepth : (reachedTexts survey [term]).encard < depth) :
    trail.scanned.map Term.text = term.text :: trail.claimed := by
  have hfinite : (reachedTexts survey [term]).Finite := Set.finite_of_encard_le_coe hdepth.le
  have hcard : hfinite.toFinset.card < depth := by
    rw [hfinite.encard_eq_coe_toFinset_card] at hdepth
    exact_mod_cast hdepth
  have hclosed : ∀ t ∈ reachedTerms survey [term], ∀ next, Leads survey t next →
      next ∈ reachedTerms survey [term] ∧ next.text ∈ hfinite.toFinset :=
    fun t ht next hleads => by simpa using reached_of_leads ht hleads
  exact h.scanned_eq_of_budget hclosed
    (fun first hfirst => ⟨term, List.mem_singleton_self _, hfirst ▸ .refl⟩) (by simp)
    (by simpa using hcard)

theorem encard_reachedTexts_le (roots : List Term) (routines : Finset String)
    (h : ∀ term result, Keeps survey term result → ∀ m ∈ result.hits, m.routine ≠ "" →
      m.routine ∈ routines) : (reachedTexts survey roots).encard ≤ routines.card := by
  have hsubset : reachedTexts survey roots ⊆ routines.image fun name => "\\b" ++ name ++ "\\b" := by
    rintro _ ⟨root, -, term, hreached, rfl⟩
    obtain ⟨middle, -, result, hkeeps, -, m, hm, hroutine, hword⟩ := TransGen.tail'_iff.mp hreached
    rw [Finset.coe_image]
    exact ⟨m.routine, h middle result hkeeps m hm hroutine, (Term.text_of_wholeWord hword).symm⟩
  calc (reachedTexts survey roots).encard
      ≤ (routines.image fun name => "\\b" ++ name ++ "\\b").card := by
        rw [← Set.encard_coe_eq_coe_finsetCard]
        exact Set.encard_le_encard hsubset
    _ ≤ routines.card := by exact_mod_cast Finset.card_image_le

/-- In a tree only finitely many texts can be reached, so that some depth is always enough. -/
theorem reachedTexts_finite (scanner : Scanner) (disk : Disk) (root : Path) (roots : List Term) :
    (reachedTexts (scanner.survey disk root) roots).Finite := by
  cases hfiles : scanner.files disk root with
  | error error =>
    apply Set.finite_of_encard_le_coe (encard_reachedTexts_le roots ∅ ?_)
    rintro term result ⟨results, records, hsurvey, -⟩
    rw [Scanner.survey_of_error hfiles] at hsurvey
    cases hsurvey
  | ok files =>
    apply Set.finite_of_encard_le_coe
      (encard_reachedTexts_le roots (scanner.routines disk files).toFinset ?_)
    intro term result hkeeps m hm hroutine
    obtain ⟨results, records, hsurvey, scanned, hscanned, hm⟩ := exists_scanned_of_keeps hkeeps hm
    rw [Scanner.survey_of_files hfiles, Except.ok.injEq] at hsurvey
    exact List.mem_toFinset.mpr
      (Scanner.routine_mem_routines (by rwa [hsurvey]) hm hroutine)

theorem mem_session_scans_iff {traces : List (Term × Nat)}
    (h : (session survey traces []).AllReturn)
    (hdepth : ∀ trace ∈ traces, (reachedTexts survey (traces.map (·.1))).encard < trace.2) :
    term ∈ (session survey traces []).scans ↔ term ∈ reachedTerms survey (traces.map (·.1)) := by
  refine ⟨reached_of_mem_session_scans h, ?_⟩
  rintro ⟨root, hroot, hreached⟩
  obtain ⟨trace, htrace, rfl⟩ := List.mem_map.mp hroot
  have hfinite : (reachedTexts survey (traces.map (·.1))).Finite :=
    Set.finite_of_encard_le_coe (hdepth trace htrace).le
  induction hreached with
  | refl =>
    apply mem_session_scans_of_root h _ htrace
    intro other hother
    exact_mod_cast pos_of_gt (hdepth other hother)
  | @tail middle next hmiddle hleads ih =>
    -- The middle term is scanned for, so the next one is claimed, and the depth pays for its round.
    obtain ⟨result, hkeeps, hnames⟩ := hleads
    have hclaimed := (mem_session_claimed h).mpr (Or.inr
      ⟨result, (mem_session_committed h).mpr ⟨middle, ih, hkeeps⟩, next, hnames, rfl⟩)
    have hscanned := session_scanned_of_claimed h (reachedTerms survey (traces.map (·.1)))
      hfinite.toFinset
      (fun t ht next hnext => by simpa using reached_of_leads ht hnext)
      (fun other hother => ⟨⟨other.1, List.mem_map_of_mem hother, .refl⟩, by
        have := hdepth other hother
        rw [hfinite.encard_eq_coe_toFinset_card] at this
        exact_mod_cast this⟩) hclaimed
    obtain ⟨next', hnext', htext, m', hwithin'⟩ := hscanned.resolve_left (by simp)
    obtain ⟨-, m, -, hwithin⟩ := hnames
    rwa [← hwithin'.ext hwithin htext]

/-- Traces run one after the other, each with more depth than there are texts to reach, return if the
source files can be listed, and together find just the test cases that the rounds of the roots and of
the reached terms keep. -/
theorem session_finds_exactly (scanner : Scanner) (disk : Disk) (root : Path)
    (traces : List (Term × Nat)) {s : Session}
    (hs : session (scanner.survey disk root) traces [] = s)
    (hcompile : NamesCompile (scanner.survey disk root) (traces.map (·.1)))
    (hdepth : ∀ trace ∈ traces,
      (reachedTexts (scanner.survey disk root) (traces.map (·.1))).encard < trace.2) :
    ((∃ files, scanner.files disk root = .ok files) → s.AllReturn) ∧
    ∀ k, (∃ outcome ∈ s.outcomes, ∃ cases, outcome.1 = .ok cases ∧ k ∈ cases.keys) ↔
      k ≠ "" ∧ ∃ term ∈ reachedTerms (scanner.survey disk root) (traces.map (·.1)),
        ∃ result, Keeps (scanner.survey disk root) term result ∧ result.info.identifier = k := by
  subst hs
  cases hfiles : scanner.files disk root with
  -- Without a list of files no round can be made, so no trace returns and nothing is kept.
  | error error =>
    have hfailed := Scanner.survey_of_error hfiles
    refine ⟨?_, fun k => ⟨?_, ?_⟩⟩
    · rintro ⟨files, hok⟩
      cases hok
    · rintro ⟨outcome, houtcome, cases, hcases, -⟩
      have herror := forall_session_outcomes (P := fun outcome => outcome.1 = .error (.files error))
        (fun trace htrace journal => run_of_survey_error (congrFun hfailed trace.1)
          (by exact_mod_cast pos_of_gt (hdepth trace htrace)) journal) [] outcome houtcome
      rw [hcases] at herror
      cases herror
    · rintro ⟨-, term, -, result, ⟨results, records, hsurvey, -⟩, -⟩
      rw [hfailed] at hsurvey
      cases hsurvey
  | ok files =>
    have hall : (session (scanner.survey disk root) traces []).AllReturn := by
      apply forall_session_outcomes
      intro trace htrace journal
      apply run_returns (reachedTerms (scanner.survey disk root) (traces.map (·.1)))
      · exact fun t ht next hleads => (reached_of_leads ht hleads).1
      · exact fun t _ => ⟨scanner.visitAll disk files t, congrFun (Scanner.survey_of_files hfiles) t⟩
      · exact hcompile
      · exact ⟨trace.1, List.mem_map_of_mem htrace, .refl⟩
    refine ⟨fun _ => hall, fun k => ?_⟩
    rw [mem_session_keys hall]
    simp only [mem_session_committed hall, mem_session_scans_iff hall hdepth]
    constructor
    · rintro ⟨hk, result, ⟨term, hterm, hkeeps⟩, hid⟩
      exact ⟨hk, term, hterm, result, hkeeps, hid⟩
    · rintro ⟨hk, term, hterm, result, hkeeps, hid⟩
      exact ⟨hk, result, ⟨term, hterm, hkeeps⟩, hid⟩

theorem sample_routines : ∀ name ∈ Sample.scanner.routines Sample.tree Sample.files,
    name ∈ ["", "a", "b", "c"] := by
  decide +kernel

theorem sample_words : ∀ name ∈ ["a", "b", "c"], (Term.wholeWord? name).toOption.isSome = true := by
  decide +kernel

theorem sample_routine_of_keeps {term : Term} {result : FileResult} {m : Match}
    (hkeeps : Keeps (Sample.scanner.survey Sample.tree Sample.root) term result)
    (hm : m ∈ result.hits) (hroutine : m.routine ≠ "") : m.routine ∈ ["a", "b", "c"] := by
  obtain ⟨results, records, hsurvey, scanned, hscanned, hm⟩ := exists_scanned_of_keeps hkeeps hm
  rw [Sample.survey_eq, Except.ok.injEq] at hsurvey
  have hname := sample_routines _
    (Scanner.routine_mem_routines (by rwa [hsurvey]) hm hroutine)
  exact (List.mem_cons.mp hname).resolve_left hroutine

/-- Two roots of the sample, traced with the claims of the first carried over to the second. -/
theorem sample_session_exact :
    ∃ s, session (Sample.scanner.survey Sample.tree Sample.root)
        [(.literal "x", 4), (.literal "b()", 4)] [] = s ∧
      NamesCompile (Sample.scanner.survey Sample.tree Sample.root) [.literal "x", .literal "b()"] ∧
      (reachedTexts (Sample.scanner.survey Sample.tree Sample.root)
        [.literal "x", .literal "b()"]).encard < 4 ∧
      s.AllReturn ∧
      ∀ k, (∃ outcome ∈ s.outcomes, ∃ cases, outcome.1 = .ok cases ∧ k ∈ cases.keys) ↔
        k ≠ "" ∧ ∃ term ∈ reachedTerms (Sample.scanner.survey Sample.tree Sample.root)
            [.literal "x", .literal "b()"],
          ∃ result, Keeps (Sample.scanner.survey Sample.tree Sample.root) term result ∧
            result.info.identifier = k := by
  have hcompile : NamesCompile (Sample.scanner.survey Sample.tree Sample.root)
      [.literal "x", .literal "b()"] := by
    intro term _ result hkeeps _ m hm hroutine
    have hword := sample_words _ (sample_routine_of_keeps hkeeps hm hroutine)
    cases hnext : Term.wholeWord? m.routine with
    | error error => simp [hnext, Except.toOption] at hword
    | ok next => exact ⟨next, hroutine, hnext⟩
  have hfew : (reachedTexts (Sample.scanner.survey Sample.tree Sample.root)
      [.literal "x", .literal "b()"]).encard < 4 := by
    have hcard := encard_reachedTexts_le [.literal "x", .literal "b()"]
      ["a", "b", "c"].toFinset fun term result hkeeps m hm hroutine =>
        List.mem_toFinset.mpr (sample_routine_of_keeps hkeeps hm hroutine)
    exact hcard.trans_lt (by decide)
  have hexact := session_finds_exactly Sample.scanner Sample.tree Sample.root
    [(.literal "x", 4), (.literal "b()", 4)] rfl hcompile (by simpa using hfew)
  exact ⟨_, rfl, hcompile, hfew, hexact.1 ⟨_, Sample.files_eq⟩, hexact.2⟩

end TestReach.Trace
