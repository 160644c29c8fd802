import ChatDispatch.Proofs.Dispatcher.Refreshing

/-!
# When a refresh comes to its end

A refresh is meant to skip what it cannot store.  It does so for a plugin that cannot list
its commands, for a declaration without a name, for a command whose keys are blank and for a
second command of one pair of keys.  Every other fault ends it halfway: a field that is no
collection, or a key that is one.  `Completed` is a refresh that went to its end, and
`Abandoned` one that did not; the readings alone decide between them, whatever listeners do.
-/

namespace ChatDispatch.Dispatcher

open CommandTables

/-- A refresh that has come to its end, with the number of commands it stored.  Whatever was
offered has a handler, unless a listener has taken it away. -/
structure Completed (before after : Dispatcher) (count : Nat) : Prop where
  failed : ∀ reading ∈ before.readings, ∀ failure,
    reading.verdict = .failed failure → failure ∈ after.failures
  offered : before.Lasting → ∀ reading ∈ before.readings, ∀ handle agent command,
    reading.verdict = .offered handle agent command →
      (after.tables.handler? agent command.name).isSome = true
  accounted : count + after.failures.length = before.readings.length
  refreshed : after.needsRefresh = false
  announced :
    after =
      (announce .commandsChanged []
        (before.locked.rebuild before.enabledHandles).1.release).unlocked

/-- A refresh that a reading has stopped: what was noted before stays, and nothing is
announced after the rebuild. -/
structure Abandoned (before after : Dispatcher) (fault : Fault) : Prop where
  stopped : ∃ passed reading rest,
    before.readings = passed ++ reading :: rest ∧
      (∀ earlier ∈ passed, earlier.isSound = true) ∧ reading.verdict = .faulty fault
  failures : after.failures = before.failures
  needsRefresh : after.needsRefresh = before.needsRefresh
  unannounced : after = (before.locked.rebuild before.enabledHandles).1.release.unlocked

theorem completed_of_isSound {state : Dispatcher} (attached : state.Attached)
    (sound : ∀ reading ∈ state.readings, reading.isSound = true) :
    ∃ count, state.refresh.2 = .ok count ∧ Completed state state.refresh.1 count := by
  obtain ⟨done, steps, rebuilt⟩ := rebuild_of_isSound attached sound
  have refreshed := refresh_of_rebuilt attached rebuilt
  have started := followsPlugins_start attached
  have told := told_of_steps_start attached steps
  have failures : state.refresh.1.failures = done.failures := by
    rw [refreshed]
    exact told.failures
  have noFailures : (Rebuild.start state.locked).failures = [] := rfl
  have noCount : (Rebuild.start state.locked).count = 0 := rfl
  refine ⟨done.count, by rw [refreshed], ?_⟩
  exact {
    failed := by
      intro reading member failure verdict
      rw [failures]
      exact Rebuild.mem_failures_of_steps steps member verdict
    offered := by
      intro lasting reading member handle agent command verdict
      have startLasting : (Rebuild.start state.locked).state.Lasting :=
        (grows_start attached.locked).lasting lasting
      have doneLasting := (Rebuild.grows_of_steps steps started).lasting startLasting
      rw [refreshed]
      exact told.isSome_handler? doneLasting
        (Rebuild.isSome_handler?_of_steps steps started startLasting member verdict)
    accounted := by
      rw [failures, Rebuild.length_failures_of_steps steps, noFailures, noCount]
      simp
    refreshed := by
      rw [refreshed]
      exact told.needsRefresh
    announced := by rw [refreshed, rebuilt] }

theorem abandoned_of_faulty {state : Dispatcher} (attached : state.Attached)
    {passed rest : List Reading} {reading : Reading} {fault : Fault}
    (split : state.readings = passed ++ reading :: rest)
    (sound : ∀ earlier ∈ passed, earlier.isSound = true)
    (faulty : reading.verdict = .faulty fault) :
    state.refresh.2 = .error fault ∧ Abandoned state state.refresh.1 fault := by
  obtain ⟨middle, handlers, steps, rebuilt, -⟩ :=
    rebuild_of_faulty attached split sound faulty
  have refreshed := refresh_of_stopped attached rebuilt
  have grows := grows_of_steps_start attached steps
  constructor
  · rw [refreshed]
  exact {
    stopped := ⟨passed, reading, rest, split, sound, faulty⟩
    failures := by
      rw [refreshed]
      exact grows.failures
    needsRefresh := by
      rw [refreshed]
      exact grows.needsRefresh
    unannounced := by rw [refreshed, rebuilt] }

/-- A refresh comes to its end exactly if no reading is at fault. -/
theorem refresh_completes_iff_isSound {state : Dispatcher} (attached : state.Attached) :
    ((∀ reading ∈ state.readings, reading.isSound = true) →
      ∃ count, state.refresh.2 = .ok count ∧ Completed state state.refresh.1 count) ∧
    ((¬∀ reading ∈ state.readings, reading.isSound = true) →
      ∃ fault, state.refresh.2 = .error fault ∧ Abandoned state state.refresh.1 fault) := by
  constructor
  · exact completed_of_isSound attached
  · intro unsound
    obtain ⟨passed, reading, rest, fault, split, sound, faulty⟩ :=
      Reading.exists_first_faulty unsound
    exact ⟨fault, abandoned_of_faulty attached split sound faulty⟩

/-- A declaration without a name is noted, and the commands after it are stored. -/
theorem refresh_completes_past_nameless :
    let named (name : String) := Declaration.mapping [(.text "name", .text name)]
    let state : Dispatcher :=
      { blank with
        source := .direct
        needsRefresh := true
        plugins := [samplePlugin "p" [named "", named "y"]]
        registered := ⟨[], [(.text "p", 0)]⟩ }
    (∀ reading ∈ state.readings, reading.isSound = true) ∧
      ∃ count, state.refresh.2 = .ok count ∧ Completed state state.refresh.1 count := by
  intro named state
  have attached : state.Attached := ⟨rfl, rfl, fun _ member => by cases member⟩
  have sound : ∀ reading ∈ state.readings, reading.isSound = true := by decide +kernel
  exact ⟨sound, (refresh_completes_iff_isSound attached).1 sound⟩

/-- Examples that are a number end a refresh: the command after them is not stored, nothing
is noted, and the tables still need a refresh. -/
theorem not_completes_numeric_examples :
    let declared : List Declaration :=
      [.mapping [(.text "name", .text "x"), (.text "examples", .int 5)],
        .mapping [(.text "name", .text "y")]]
    let state : Dispatcher :=
      { blank with
        source := .direct
        needsRefresh := true
        plugins := [samplePlugin "p" declared]
        registered := ⟨[], [(.text "p", 0)]⟩ }
    state.refresh.2 = .error (.notIterable .int) ∧
      state.refresh.1.failures = [] ∧
      state.refresh.1.needsRefresh = true ∧
      state.refresh.1.tables.handler? (.text "p") (.text "y") = none := by
  decide +kernel

end ChatDispatch.Dispatcher
