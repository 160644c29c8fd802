import ChatDispatch.Proofs.Dispatcher.Refreshing

/-!
# The tables after a refresh

What a refresh makes of the tables is a matter of what it reads: of the commands that the
built-in ones and the plugins offer under one pair of keys, the first one is kept, and every
reading that is not kept is noted as a failure.  The ledger says this without any tables.
-/

namespace ChatDispatch

open CommandTables

/-- The commands of plugins that are kept, and the failures that are noted. -/
structure Ledger where
  kept : List Entry
  failures : List Failure
deriving DecidableEq

namespace Ledger

def empty : Ledger := ⟨[], []⟩

/-- All commands of a ledger, the built-in ones first. -/
def entries (ledger : Ledger) : List Entry :=
  Builtin.all.map Builtin.entry ++ ledger.kept

def fail (ledger : Ledger) (failure : Failure) : Ledger :=
  { ledger with failures := ledger.failures ++ [failure] }

/-- Enters a reading: an offered command is kept unless there is one of its keys. -/
def enter (ledger : Ledger) (reading : Reading) : Ledger :=
  match reading.verdict with
  | .failed failure => ledger.fail failure
  | .faulty _ => ledger
  | .offered handle agent command =>
      if ledger.entries.any (Entry.isOf agent command.name) then
        ledger.fail ⟨agent, command.name, Refusal.duplicate.message⟩
      else
        { ledger with kept := ledger.kept ++ [Dispatcher.pluginEntry handle agent command] }

def ofReadings (readings : List Reading) : Ledger :=
  readings.foldl enter empty

end Ledger

namespace Dispatcher

/-- A rebuild whose tables, failures and count are those of a ledger. -/
structure Mirrors (rebuild : Rebuild) (ledger : Ledger) : Prop where
  tables : rebuild.state.tables = ofEntries ledger.entries
  failures : rebuild.failures = ledger.failures
  count : rebuild.count = ledger.kept.length
  follows : rebuild.state.FollowsPlugins
  quiet : rebuild.state.Quiet

theorem mirrors_start {state : Dispatcher} (follows : state.FollowsPlugins)
    (quiet : state.Quiet) : Mirrors (Rebuild.start state) .empty where
  tables := by
    rw [tables_start_of_quiet follows quiet, Ledger.entries, Ledger.empty, List.append_nil]
  failures := rfl
  count := rfl
  follows := (grows_start follows).followsPlugins follows
  quiet := (grows_start follows).quiet quiet

theorem mirrors_skip {rebuild : Rebuild} {ledger : Ledger} (mirrors : Mirrors rebuild ledger)
    (failure : Failure) :
    Mirrors (rebuild.skip failure.agent failure.command failure.reason)
      (ledger.fail failure) where
  tables := mirrors.tables
  failures := congrArg (· ++ [failure]) mirrors.failures
  count := mirrors.count
  follows := mirrors.follows
  quiet := mirrors.quiet

theorem mirrors_of_step {rebuild next : Rebuild} {ledger : Ledger} {reading : Reading}
    (mirrors : Mirrors rebuild ledger) (step : Rebuild.Step rebuild reading next) :
    Mirrors next (ledger.enter reading) := by
  cases step with
  | @failed failure verdict =>
      have entered : ledger.enter reading = ledger.fail failure := by
        simp only [Ledger.enter, verdict]
      rw [entered]
      exact mirrors_skip mirrors failure
  | @duplicate handle agent command verdict present =>
      rw [mirrors.tables, isSome_handler?_ofEntries] at present
      have entered :
          ledger.enter reading =
            ledger.fail ⟨agent, command.name, Refusal.duplicate.message⟩ := by
        simp only [Ledger.enter, verdict, present, if_true]
      rw [entered]
      exact mirrors_skip mirrors ⟨agent, command.name, Refusal.duplicate.message⟩
  | @stored handle agent command verdict absent =>
      let entry := pluginEntry handle agent command
      have grows : Grows rebuild.state (rebuild.state.install entry) :=
        grows_install absent mirrors.follows
      have kept := tables_install_of_quiet entry mirrors.quiet mirrors.tables
      rw [mirrors.tables, isSome_handler?_ofEntries] at absent
      have entered :
          ledger.enter reading =
            { ledger with kept := ledger.kept ++ [pluginEntry handle agent command] } := by
        simp only [Ledger.enter, verdict, absent, Bool.false_eq_true, if_false]
      rw [entered]
      exact {
        tables := by rw [Rebuild.keep, kept, Ledger.entries, Ledger.entries, List.append_assoc]
        failures := mirrors.failures
        count := by simp [Rebuild.keep, mirrors.count]
        follows := grows.followsPlugins mirrors.follows
        quiet := grows.quiet mirrors.quiet }

theorem mirrors_of_steps {rebuild next : Rebuild} {ledger : Ledger} {readings : List Reading}
    (mirrors : Mirrors rebuild ledger) (steps : Rebuild.Steps rebuild readings next) :
    Mirrors next (readings.foldl Ledger.enter ledger) := by
  induction steps generalizing ledger with
  | nil => exact mirrors
  | cons step _ induction => exact induction (mirrors_of_step mirrors step)

/-- A refresh makes the tables, the failures and its count from what it reads, and from
nothing else. -/
theorem refresh_keeps_ledger {state : Dispatcher} (attached : state.Attached)
    (quiet : state.Quiet) (sound : ∀ reading ∈ state.readings, reading.isSound = true) :
    state.refresh.2 = .ok (Ledger.ofReadings state.readings).kept.length ∧
      state.refresh.1.tables = ofEntries (Ledger.ofReadings state.readings).entries ∧
      state.refresh.1.failures = (Ledger.ofReadings state.readings).failures ∧
      (Ledger.ofReadings state.readings).kept.length +
          (Ledger.ofReadings state.readings).failures.length =
        state.readings.length := by
  obtain ⟨done, steps, rebuilt⟩ := rebuild_of_isSound attached sound
  have mirrors : Mirrors done (Ledger.ofReadings state.readings) :=
    mirrors_of_steps (mirrors_start attached.locked quiet) steps
  have silent :
      (announce .commandsChanged [] done.result.release).tables = done.result.release.tables :=
    tables_announce_of_quiet (by decide) [] mirrors.quiet
  have told : Told done.result.release (announce .commandsChanged [] done.result.release) :=
    told_announce (by decide) [] mirrors.follows
  have counted := Rebuild.length_failures_of_steps steps
  rw [refresh_of_rebuilt attached rebuilt]
  refine ⟨by rw [mirrors.count], ?_, ?_, ?_⟩
  · exact silent.trans mirrors.tables
  · exact told.failures.trans mirrors.failures
  · rw [← mirrors.count, ← mirrors.failures, counted]
    simp [Rebuild.start]

theorem enabledHandles_congr {state other : Dispatcher} (plugins : other.plugins = state.plugins)
    (registered : other.registered = state.registered) :
    other.enabledHandles = state.enabledHandles := by
  have sameEnabled : other.isEnabled = state.isEnabled := by
    funext handle
    simp only [isEnabled, plugin?, plugins]
  simp only [enabledHandles, pluginHandles, registered, sameEnabled]

theorem readings_congr {state other : Dispatcher} (plugins : other.plugins = state.plugins)
    (registered : other.registered = state.registered) : other.readings = state.readings := by
  simp only [readings, plugins, enabledHandles_congr plugins registered]

/-- The tables after a refresh are the first-wins tables of the enabled plugins, whatever
was in them before: two dispatchers with the same plugins end with the same tables. -/
theorem refresh_rebuilds_firstWins {state : Dispatcher} (attached : state.Attached)
    (quiet : state.Quiet) (sound : ∀ reading ∈ state.readings, reading.isSound = true) :
    let ledger := Ledger.ofReadings state.readings
    (state.refresh.2 = .ok ledger.kept.length ∧
      state.refresh.1.tables = ofEntries (Builtin.all.map Builtin.entry ++ ledger.kept) ∧
      state.refresh.1.failures = ledger.failures ∧
      ledger.kept.length + ledger.failures.length = state.readings.length) ∧
    ∀ other : Dispatcher, other.Attached → other.Quiet → other.plugins = state.plugins →
      other.registered = state.registered →
      other.refresh.1.tables = state.refresh.1.tables ∧
        other.refresh.1.failures = state.refresh.1.failures ∧
        other.refresh.2 = state.refresh.2 := by
  intro ledger
  obtain ⟨counted, tables, failures, complete⟩ := refresh_keeps_ledger attached quiet sound
  refine ⟨⟨counted, tables, failures, complete⟩, ?_⟩
  intro other otherAttached otherQuiet plugins registered
  have same := readings_congr plugins registered
  obtain ⟨otherCounted, otherTables, otherFailures, -⟩ :=
    refresh_keeps_ledger otherAttached otherQuiet (by rw [same]; exact sound)
  rw [same] at otherCounted otherTables otherFailures
  exact ⟨otherTables.trans tables.symm, otherFailures.trans failures.symm,
    otherCounted.trans counted.symm⟩

/-- Of two commands of one name the first one is kept, and one without a name is noted. -/
theorem refresh_rebuilds_notes :
    let named (name : String) := Declaration.mapping [(.text "name", .text name)]
    let state : Dispatcher :=
      { blank with
        source := .direct
        plugins := [samplePlugin "notes" [named "add", named "add", named ""]]
        registered := ⟨[], [(.text "notes", 0)]⟩ }
    state.refresh.2 = .ok 1 ∧
      state.refresh.1.failures =
        [⟨.text "notes", .text "add", "already registered"⟩,
          ⟨.text "notes", .text "?",
            "Command declaration has no name: \x7b'name': ''\x7d"⟩] := by
  intro named state
  have attached : state.Attached := ⟨rfl, rfl, fun _ member => by cases member⟩
  have quiet : state.Quiet := fun _ member => by cases member
  obtain ⟨⟨counted, -, failures, -⟩, -⟩ :=
    refresh_rebuilds_firstWins attached quiet (by decide +kernel)
  exact ⟨counted.trans (by decide +kernel), failures.trans (by decide +kernel)⟩

/-- A listener that changes the tables while they are rebuilt is seen in them: one that registers a
command, one that removes one, and one that describes one. -/
theorem not_firstWins_of_altering_listener :
    let usage : Usage := ⟨.text "x", .text "y", .text "", .text "/x:y", .null⟩
    let under (reaction : Reaction) : Dispatcher :=
      { blank with
        source := .direct
        subscriptions :=
          [(.commandRegistered, .listener ⟨"meddler", .commandRegistered, reaction⟩)] }
    let reactions : List Reaction :=
      [.register (.text "x") (.text "y") (.function 0 "" true),
        .unregister (.text coreAgent) (.text "help"), .describe usage]
    ∀ reaction ∈ reactions,
      (under reaction).Attached ∧
      (∀ reading ∈ (under reaction).readings, reading.isSound = true) ∧
      (under reaction).refresh.1.tables ≠
        ofEntries
          (Builtin.all.map Builtin.entry ++
            (Ledger.ofReadings (under reaction).readings).kept) := by
  intro usage under reactions reaction member
  refine ⟨⟨rfl, rfl, ?_⟩, ?_⟩
  · intro entry subscribed isRefresher
    cases List.mem_singleton.mp subscribed
    cases isRefresher
  · revert reaction
    decide +kernel

end Dispatcher

end ChatDispatch
