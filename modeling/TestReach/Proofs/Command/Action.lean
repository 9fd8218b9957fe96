import TestReach.Command.Console
import TestReach.Proofs.Log.Setup
import TestReach.Proofs.Outcome

namespace TestReach.Command

variable {α β σ : Type} {x : Action α} {f : α → Action β} {console console' : Console} {value : α}
  {stop : Stop} {surroundings : Surroundings} {ways : Set Path}

theorem run_bind (x : Action α) (f : α → Action β) (console : Console) :
    (x >>= f).run console =
      match x.run console with
      | (.ok value, console) => (f value).run console
      | (.error stop, console) => (.error stop, console) := by
  change (match x.run console with
    | (result, console) => ExceptT.bindCont f result console) = _
  rcases x.run console with ⟨stop | value, console⟩ <;> rfl

theorem exists_of_bind_error (h : (x >>= f).run console = (.error stop, console')) :
    x.run console = (.error stop, console') ∨ ∃ first middle, x.run console = (.ok first, middle) ∧
      (f first).run middle = (.error stop, console') := by
  rw [run_bind] at h
  split at h
  · rename_i first middle hfirst
    exact Or.inr ⟨first, middle, hfirst, h⟩
  · rename_i hfirst
    cases h
    exact Or.inl hfirst

/-- An action, ending or stopping, takes every console to a related one. -/
def Keeps (R : Console → Console → Prop) (x : Action α) : Prop :=
  ∀ console, R console (x.run console).2

structure Console.Same (console console' : Console) : Prop where
  disk : console'.disk = console.disk
  log : console'.log = console.log
  count : console'.count = console.count

structure Console.Writes (surroundings : Surroundings) (console : Console)
    (records : List Log.Record) (console' : Console) : Prop where
  disk : console'.disk = console.diskAfter surroundings records
  log : console'.log = console.log
  count : console'.count = console.count + records.length

def Console.Logged (surroundings : Surroundings) (console console' : Console) : Prop :=
  ∃ records, console.Writes surroundings records console'

theorem timed_append (surroundings : Surroundings) (count : Nat) (records more : List Log.Record) :
    surroundings.timed count (records ++ more) =
      surroundings.timed count records ++ surroundings.timed (count + records.length) more := by
  simp [Surroundings.timed, List.mapIdx_append, Nat.add_comm, Nat.add_left_comm]

theorem Console.Same.trans {console'' : Console} (h : console.Same console')
    (h' : console'.Same console'') : console.Same console'' :=
  ⟨h'.disk.trans h.disk, h'.log.trans h.log, h'.count.trans h.count⟩

theorem Console.Same.logged (h : console.Same console') : console.Logged surroundings console' :=
  ⟨[], h.disk, h.log, h.count⟩

theorem Console.Writes.diskAfter {records : List Log.Record}
    (h : console.Writes surroundings records console') (more : List Log.Record) :
    console'.diskAfter surroundings more = console.diskAfter surroundings (records ++ more) := by
  rw [Console.diskAfter, h.disk, h.log, h.count, Console.diskAfter, Console.diskAfter, timed_append,
    Log.Setup.emitAll_append]

theorem Console.Writes.trans {console'' : Console} {records more : List Log.Record}
    (h : console.Writes surroundings records console')
    (h' : console'.Writes surroundings more console'') :
    console.Writes surroundings (records ++ more) console'' where
  disk := h'.disk.trans (h.diskAfter more)
  log := h'.log.trans h.log
  count := by rw [h'.count, h.count, List.length_append, Nat.add_assoc]

theorem Console.Logged.trans {console'' : Console} (h : console.Logged surroundings console')
    (h' : console'.Logged surroundings console'') : console.Logged surroundings console'' := by
  obtain ⟨records, hrecords⟩ := h
  obtain ⟨more, hmore⟩ := h'
  exact ⟨records ++ more, hrecords.trans hmore⟩

theorem Keeps.mono {R R' : Console → Console → Prop} (hx : Keeps R x)
    (h : ∀ console console', R console console' → R' console console') : Keeps R' x :=
  fun console => h console _ (hx console)

theorem Keeps.logged (hx : Keeps Console.Same x) : Keeps (Console.Logged surroundings) x :=
  hx.mono fun _ _ => Console.Same.logged

theorem Keeps.of_run {R : Console → Console → Prop} (hx : Keeps R x) {result : Except Stop α}
    (h : x.run console = (result, console')) : R console console' := by
  have hconsole := hx console
  rwa [h] at hconsole

theorem Keeps.bind {R : Console → Console → Prop}
    (htrans : ∀ {a b c : Console}, R a b → R b c → R a c) (hx : Keeps R x)
    (hf : ∀ value, Keeps R (f value)) : Keeps R (x >>= f) := by
  intro console
  rw [run_bind]
  split
  · rename_i value middle hvalue
    exact htrans (hx.of_run hvalue) (hf value middle)
  · rename_i hstop
    exact hx.of_run hstop

theorem run_loadSettings {file : Option Path} {settings : Settings}
    (hload : Settings.load console.disk surroundings.configFile file = .ok settings) :
    (loadSettings surroundings file).run console = (.ok settings, console) := by
  have hget : (get : Action Console).run console = (.ok console, console) := rfl
  rw [loadSettings, run_bind, hget]
  dsimp only
  rw [hload]
  rfl

/-- An action that, where it stops, has written log records only, and made directories on some ways
only. -/
def StopsLogging (ways : Set Path) (x : Action α) : Prop :=
  ∀ console stop console', x.run console = (.error stop, console') → ∃ records,
    (console.log.emitAll console.disk records).Grows ∅ ways console'.disk

theorem Keeps.stopsLogging (hx : Keeps (Console.Logged surroundings) x) : StopsLogging ways x := by
  intro console stop console' h
  obtain ⟨records, hwrites⟩ := hx.of_run h
  rw [hwrites.disk]
  exact ⟨_, .refl _⟩

theorem StopsLogging.bind (hx : Keeps (Console.Logged surroundings) x)
    (hf : ∀ value, StopsLogging ways (f value)) : StopsLogging ways (x >>= f) := by
  intro console stop console' h
  rcases exists_of_bind_error h with h | ⟨first, middle, hfirst, h⟩
  · exact hx.stopsLogging console stop console' h
  · obtain ⟨records, hwrites⟩ := hx.of_run hfirst
    obtain ⟨more, hgrows⟩ := hf first middle stop console' h
    refine ⟨surroundings.timed console.count records ++ more, ?_⟩
    rwa [hwrites.log, hwrites.disk, Console.diskAfter, ← Log.Setup.emitAll_append] at hgrows

end TestReach.Command
