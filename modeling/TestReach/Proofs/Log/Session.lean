import TestReach.Log.Session
import TestReach.Proofs.Log.Setup

namespace TestReach.Log

open Setup

structure Period where
  file : Option Path
  verbose : Bool
  records : List (String × Record)

/-- What is written to a log about records: a line for each that it takes. -/
def Period.lines (period : Period) : List UInt8 :=
  (period.records.filter fun (_, record) => takes period.verbose record).flatMap
    fun (time, record) => Text.Utf8.encode (record.line time)

namespace Session

variable {session before opened final : Session} {file : Option Path} {verbose : Bool}
  {path : Path} {key : Key} {period : Period} {periods earlier later : List Period}

def emitAll (session : Session) (records : List (String × Record)) : Session :=
  records.foldl (fun session (time, record) => session.emit time record) session

def run (session : Session) : List Period → Except Trouble Session
  | [] => .ok session
  | period :: later =>
    match session.start period.file period.verbose with
    | (.ok (), opened) => (opened.emitAll period.records).run later
    | (.error trouble, _) => .error trouble

def attached (session : Session) : List Handler :=
  session.closed ++ session.setup.handlers

def Names (key : Key) (session : Session) : List Period → Prop
  | [] => False
  | period :: later => ∃ opened, session.start period.file period.verbose = (.ok (), opened) ∧
      (key ∈ opened.setup.files ∨ Names key (opened.emitAll period.records) later)

theorem setup_of_start (h : session.start file verbose = (.ok (), opened)) :
    Setup.start session.disk file verbose = (.ok (), opened.setup, opened.disk) ∧
      opened.closed = session.attached := by
  unfold start at h
  obtain ⟨hstarted, rfl⟩ := Prod.mk.inj h
  exact ⟨Prod.ext hstarted rfl, rfl⟩

theorem of_start_none (h : session.start none verbose = (.ok (), opened)) :
    opened.setup = console verbose ∧ opened.disk = session.disk := by
  obtain ⟨disk, setup, closed⟩ := opened
  have hstart := (setup_of_start h).1
  cases hstart
  exact ⟨rfl, rfl⟩

theorem exists_of_start_some (h : session.start (some path) verbose = (.ok (), opened)) :
    ∃ key, opened.setup = logging key verbose ∧ opened.disk.locate path = .ok key ∧
      opened.disk.entry? key = some (.file (kept session.disk path key)) ∧
      session.disk.Changes {key} {path.parent} opened.disk := by
  obtain ⟨opened, setup, closed⟩ := opened
  have hstart := (setup_of_start h).1
  unfold Setup.start at hstart
  dsimp only at hstart
  split at hstart
  · cases hstart
  · rename_i key disk hprepare
    obtain ⟨hchanges, hkey⟩ := changes_of_prepare hprepare
    obtain ⟨hentry, hother⟩ := entry?_of_prepare hprepare
    obtain ⟨hlocate, -⟩ := hkey key rfl
    have hreached : session.disk.reached disk path ⊆ {key} := by
      rintro other (hbefore | hafter)
      · exact hother other hbefore
      · rw [hlocate] at hafter
        cases hafter
        rfl
    cases hstart
    exact ⟨key, rfl, hlocate, hentry, hchanges.mono hreached (Set.Subset.refl _)⟩

theorem changes_of_start (h : session.start file verbose = (.ok (), opened)) :
    session.disk.Changes opened.setup.files Set.univ opened.disk := by
  cases file with
  | none =>
    rw [(of_start_none h).2]
    exact .refl _
  | some path =>
    obtain ⟨key, hsetup, -, -, hchanges⟩ := exists_of_start_some h
    rw [hsetup, files_logging]
    exact hchanges.mono (Set.Subset.refl _) (Set.subset_univ _)

theorem grows_emitAll (session : Session) (records : List (String × Record)) :
    session.disk.Grows session.setup.files ∅ (session.emitAll records).disk := by
  induction records generalizing session with
  | nil => exact .refl _
  | cons record records ih =>
    exact (Setup.grows_emit session.setup record.1 session.disk record.2).trans
      (ih (session.emit record.1 record.2))

theorem attached_emitAll (session : Session) (records : List (String × Record)) :
    (session.emitAll records).attached = session.attached := by
  induction records generalizing session with
  | nil => rfl
  | cons record records ih => exact ih _

theorem disk_emitAll_console (hsetup : session.setup = console verbose)
    (records : List (String × Record)) : (session.emitAll records).disk = session.disk := by
  induction records generalizing session with
  | nil => rfl
  | cons record records ih =>
    have hnext : (session.emit record.1 record.2).setup = console verbose := hsetup
    have hfirst : (session.emit record.1 record.2).disk = session.disk := by
      rw [emit, hsetup, emit_console]
    exact (ih hnext).trans hfirst

theorem entry?_emitAll_logging {bytes : List UInt8}
    (hsetup : session.setup = logging key period.verbose)
    (hentry : session.disk.entry? key = some (.file bytes)) :
    (session.emitAll period.records).disk.entry? key = some (.file (bytes ++ period.lines)) := by
  obtain ⟨file, verbose, records⟩ := period
  replace hsetup : session.setup = logging key verbose := hsetup
  induction records generalizing session bytes with
  | nil =>
    rw [Period.lines, List.filter_nil, List.flatMap_nil, List.append_nil]
    exact hentry
  | cons record records ih =>
    obtain ⟨time, record⟩ := record
    have hnext : (session.emit time record).setup = logging key verbose := hsetup
    have hentry : (session.emit time record).disk.entry? key = some (.file (bytes ++
        if takes verbose record then Text.Utf8.encode (record.line time) else [])) := by
      rw [emit, hsetup, emit_logging]
      split
      · exact Disk.entry?_append hentry _
      · rw [List.append_nil]
        exact hentry
    refine (ih hentry hnext).trans ?_
    rw [Period.lines, Period.lines, List.filter_cons, List.append_assoc]
    dsimp only
    split <;> rfl

theorem run_cons : session.run (period :: later) = .ok final ↔
    ∃ opened, session.start period.file period.verbose = (.ok (), opened) ∧
      (opened.emitAll period.records).run later = .ok final := by
  rw [run]
  rcases session.start period.file period.verbose with ⟨trouble | ⟨⟩, opened⟩ <;> simp

theorem run_append : session.run (earlier ++ later) = .ok final ↔
    ∃ before, session.run earlier = .ok before ∧ before.run later = .ok final := by
  induction earlier generalizing session with
  | nil => simp [run]
  | cons period earlier ih =>
    rw [List.cons_append, run_cons]
    constructor
    · rintro ⟨opened, hopened, h⟩
      obtain ⟨before, hbefore, hfinal⟩ := ih.mp h
      exact ⟨before, run_cons.mpr ⟨opened, hopened, hbefore⟩, hfinal⟩
    · rintro ⟨before, hbefore, hfinal⟩
      obtain ⟨opened, hopened, hbefore⟩ := run_cons.mp hbefore
      exact ⟨opened, hopened, ih.mpr ⟨before, hbefore, hfinal⟩⟩

theorem attached_of_run (h : session.run periods = .ok final) :
    session.attached <+: final.attached := by
  induction periods generalizing session with
  | nil =>
    cases h
    exact List.prefix_refl _
  | cons period later ih =>
    obtain ⟨opened, hopened, h⟩ := run_cons.mp h
    have hfirst : session.attached <+: (opened.emitAll period.records).attached := by
      rw [attached_emitAll, attached, attached, (setup_of_start hopened).2]
      exact List.prefix_append _ _
    exact hfirst.trans (ih h)

theorem changes_of_run (h : session.run periods = .ok final) (hkey : ¬ Names key session periods) :
    session.disk.Changes {key}ᶜ Set.univ final.disk := by
  induction periods generalizing session with
  | nil =>
    cases h
    exact .refl _
  | cons period later ih =>
    obtain ⟨opened, hopened, h⟩ := run_cons.mp h
    have hlater : ¬ Names key (opened.emitAll period.records) later :=
      fun hnames => hkey ⟨opened, hopened, Or.inr hnames⟩
    -- As the file is not named, it is none of those that this log writes to.
    have hfiles : opened.setup.files ⊆ {key}ᶜ := by
      rintro other hother rfl
      exact hkey ⟨opened, hopened, Or.inl hother⟩
    have hopens : session.disk.Changes {key}ᶜ Set.univ opened.disk :=
      (changes_of_start hopened).mono hfiles (Set.Subset.refl _)
    have hemits : opened.disk.Changes {key}ᶜ Set.univ (opened.emitAll period.records).disk :=
      (grows_emitAll opened period.records).toChanges.mono hfiles (Set.empty_subset _)
    exact hopens.trans (hemits.trans (ih h hlater))

/-- After each start there are a console and, if one is asked for, one log file, and all handlers
before are closed. What is in a log file at the end are the lines since the last start in it, for the
records that its log takes, and before them nothing, unless the path led nowhere until the start had
made its directories: then what was in the file stays in front. -/
theorem records_reach_current_log
    (h : session.run (earlier ++ period :: later) = .ok final) :
    ∃ before opened, session.run earlier = .ok before ∧
      before.start period.file period.verbose = (.ok (), opened) ∧
      (opened.emitAll period.records).run later = .ok final ∧
      opened.closed = before.attached ∧
      (∀ first middle, first <+: earlier → session.run first = .ok middle →
        middle.attached <+: opened.closed) ∧
      match period.file with
      | none => opened.setup = console period.verbose ∧
          (opened.emitAll period.records).disk = before.disk
      | some path => ∃ key, opened.setup = logging key period.verbose ∧
          opened.disk.locate path = .ok key ∧
          (¬ Names key (opened.emitAll period.records) later →
            final.disk.bytes path = .ok (kept before.disk path key ++ period.lines)) := by
  obtain ⟨before, hbefore, h⟩ := run_append.mp h
  obtain ⟨opened, hopened, hfinal⟩ := run_cons.mp h
  have hclosed := (setup_of_start hopened).2
  refine ⟨before, opened, hbefore, hopened, hfinal, hclosed, ?_, ?_⟩
  · rintro first middle ⟨rest, rfl⟩ hmiddle
    obtain ⟨middle', hmiddle', hrest⟩ := run_append.mp hbefore
    rw [hmiddle] at hmiddle'
    cases hmiddle'
    rw [hclosed]
    exact attached_of_run hrest
  split
  · rename_i hfile
    rw [hfile] at hopened
    obtain ⟨hsetup, hdisk⟩ := of_start_none hopened
    exact ⟨hsetup, (disk_emitAll_console hsetup _).trans hdisk⟩
  · rename_i path hfile
    rw [hfile] at hopened
    obtain ⟨key, hsetup, hlocate, hentry, -⟩ := exists_of_start_some hopened
    refine ⟨key, hsetup, hlocate, fun hlater => ?_⟩
    -- Records go to this file alone, and the later periods leave it as it is.
    have hwritten := entry?_emitAll_logging hsetup hentry
    have hchanges := changes_of_run hfinal hlater
    have hstays := hchanges.stays (by simp) hwritten
    have hstill := (grows_emitAll opened period.records).locate hlocate
    exact Disk.bytes_of_file (hchanges.locate hstill (by rw [hstays]; rfl)) hstays

end Session

namespace Sample

def begin : Session := {}

def plain : Path := ⟨"", ["a.log"]⟩

/-- Another path to the same file, over a directory that is not there yet. -/
def detour : Path := ⟨"", ["new", "..", "a.log"]⟩

def about (file : Option Path) (verbose : Bool) (message : String) : Period :=
  ⟨file, verbose, [("8:05", record .debug "tracer" message), ("8:06", record .info "tracer" message)]⟩

end Sample

open Sample

/-- The second log in a file is the only one that is left in it, whatever follows elsewhere. -/
theorem sample_log_fresh : ∃ final,
    begin.run ([about (some plain) false "one"] ++
      about (some plain) true "two" :: [about none false "three"]) = .ok final ∧
      final.disk.bytes plain = .ok (Text.Utf8.encode
        ("8:05 DEBUG    used_in_tc.tracer: two\n" ++ "8:06 INFO     used_in_tc.tracer: two\n")) := by
  have hrun : ∃ final, begin.run ([about (some plain) false "one"] ++
      about (some plain) true "two" :: [about none false "three"]) = .ok final := ⟨_, rfl⟩
  obtain ⟨final, hfinal⟩ := hrun
  obtain ⟨before, opened, hbefore, hopened, -, -, -, key, -, hlocate, hbytes⟩ :=
    Session.records_reach_current_log hfinal
  refine ⟨final, hfinal, ?_⟩
  have hlater : ¬ Session.Names key (opened.emitAll (about (some plain) true "two").records)
      [about none false "three"] := by
    rintro ⟨next, hnext, hfile | hnone⟩
    · rw [(Session.of_start_none hnext).1] at hfile
      simp [Setup.files, Setup.console] at hfile
    · exact hnone
  have hholds : (begin.run [about (some plain) false "one"]).map (fun before =>
      before.disk.holds plain) = .ok true := by decide +kernel
  rw [hbefore] at hholds
  rw [hbytes hlater, Setup.kept, if_pos (Except.ok.inj hholds)]
  decide +kernel

/-- Where a path leads to the file of an earlier log only once its directories are made, the lines of
that log stay. -/
theorem detour_keeps_stale_lines :
    (begin.run [about (some plain) false "one", about (some detour) false "two"]).bind
        (fun final => final.disk.bytes plain) =
      .ok (Text.Utf8.encode ("8:06 INFO     used_in_tc.tracer: one\n" ++
        "8:06 INFO     used_in_tc.tracer: two\n")) := by
  decide +kernel

end TestReach.Log
