import ChatDispatch.Dispatcher.Rebuild
import ChatDispatch.Proofs.Dispatcher.Alerting

/-!
# Storing a command

The built-in commands and those of plugins are stored in the same way: the handler, the
event, the usage.  `install` is this way, for a pair of keys that has no handler yet.
-/

namespace ChatDispatch

open CommandTables

/-- A built-in command as the tables keep it. -/
def Builtin.entry (builtin : Builtin) : Entry where
  agent := .text coreAgent
  command := .text builtin.key
  handler := .builtin builtin
  usage := builtin.usage

namespace Dispatcher

def placeUsage (state : Dispatcher) (agent command : Value) (usage : Usage) : Dispatcher :=
  { state with
    tables := { state.tables with usages := place agent command usage state.tables.usages } }

/-- Puts the handler of a command into the tables and tells that it is there. -/
def tellStored (state : Dispatcher) (entry : Entry) : Dispatcher :=
  announce .commandRegistered (commandPayload entry.agent entry.command)
    (state.placeHandler entry.agent entry.command entry.handler)

def install (state : Dispatcher) (entry : Entry) : Dispatcher :=
  (state.tellStored entry).placeUsage entry.agent entry.command entry.usage

variable {state : Dispatcher}

theorem told_tellStored (entry : Entry) (follows : state.FollowsPlugins) :
    Told (state.placeHandler entry.agent entry.command entry.handler) (state.tellStored entry) :=
  told_announce (by decide) _ follows

theorem grows_install {entry : Entry}
    (absent : (state.tables.handler? entry.agent entry.command).isSome = false)
    (follows : state.FollowsPlugins) : Grows state (state.install entry) := by
  have described : Grows (state.tellStored entry) (state.install entry) :=
    ⟨rfl, fun _ => id, .refl _⟩
  exact ((grows_placeHandler absent).trans (told_tellStored entry follows).toGrows).trans described

/-- An installed command has a handler, unless a listener takes it away. -/
theorem isSome_handler?_install (entry : Entry) (follows : state.FollowsPlugins)
    (lasting : state.Lasting) :
    ((state.install entry).tables.handler? entry.agent entry.command).isSome = true := by
  refine (told_tellStored entry follows).isSome_handler? lasting ?_
  rw [handler?_placeHandler]
  simp

/-- What is found after a command has been installed is its handler, was there before, or
belongs to a listener. -/
theorem handler?_install {entry : Entry} (follows : state.FollowsPlugins)
    {agent command : Value} {handler : Handler}
    (found : (state.install entry).tables.handler? agent command = some handler) :
    entry.isOf agent command = true ∧ handler = entry.handler ∨
      state.tables.handler? agent command = some handler ∨
      ∃ callable, handler = .direct callable := by
  rcases (told_tellStored entry follows).adds found with placed | own
  · rw [handler?_placeHandler] at placed
    split at placed
    · rename_i agree
      exact .inl ⟨agree, (Option.some.inj placed).symm⟩
    · exact .inr (.inl placed)
  · exact .inr (.inr own)

theorem tables_install_of_quiet (entry : Entry) (quiet : state.Quiet) {entries : List Entry}
    (kept : state.tables = ofEntries entries) :
    (state.install entry).tables = ofEntries (entries ++ [entry]) := by
  have silent :
      (state.tellStored entry).tables =
        (state.placeHandler entry.agent entry.command entry.handler).tables :=
    tables_announce_of_quiet (by decide) _ quiet
  simp only [install, placeUsage, silent, placeHandler, withHandlers, kept,
    ofEntries_append_singleton]

theorem storable_builtin (builtin : Builtin) :
    Storable builtin.entry.agent builtin.entry.command := by
  cases builtin <;> exact ⟨by decide, by decide, rfl, rfl⟩

theorem addBuiltin_of_present {builtin : Builtin}
    (present : (state.tables.handler? builtin.entry.agent builtin.entry.command).isSome = true) :
    addBuiltin true state builtin = state := by
  have refused :=
    addHandler_of_duplicate (storable_builtin builtin) present builtin.entry.handler
  simp only [Builtin.entry] at refused
  simp only [addBuiltin, addHandler, addHandlerWith, refused]

theorem addBuiltin_of_absent {builtin : Builtin}
    (absent : (state.tables.handler? builtin.entry.agent builtin.entry.command).isSome = false) :
    addBuiltin true state builtin = state.install builtin.entry := by
  have stored := addHandler_of_fresh (storable_builtin builtin) absent builtin.entry.handler
  have sameAgent : builtin.usage.agent = builtin.entry.agent := by cases builtin <;> rfl
  have sameCommand : builtin.usage.command = builtin.entry.command := by cases builtin <;> rfl
  have describable : Storable builtin.usage.agent builtin.usage.command := by
    rw [sameAgent, sameCommand]
    exact storable_builtin builtin
  simp only [Builtin.entry] at stored
  simp only [addBuiltin, addHandler, addHandlerWith, stored, if_true, registerUsage,
    addUsage_of_storable describable, sameAgent, sameCommand]
  rfl

theorem grows_registerUsage (state : Dispatcher) (usage : Usage) :
    Grows state (state.registerUsage (some usage)).1 where
  frame := rfl
  keeps := fun _ _ _ _ present => (handler?_addUsage state.tables usage _ _).trans present
  leaves := .refl _

theorem grows_addBuiltin (quiet : Bool) (builtin : Builtin) (follows : state.FollowsPlugins) :
    Grows state (addBuiltin quiet state builtin) := by
  have handled :=
    grows_addHandler quiet (.text coreAgent) (.text builtin.key) (.builtin builtin) follows
  unfold addBuiltin
  dsimp only
  split
  · exact handled.trans (grows_registerUsage _ _)
  · exact handled

theorem isSome_handler?_addBuiltin (builtin : Builtin) (follows : state.FollowsPlugins)
    (lasting : state.Lasting) :
    ((addBuiltin true state builtin).tables.handler? builtin.entry.agent
      builtin.entry.command).isSome = true := by
  cases present :
      (state.tables.handler? builtin.entry.agent builtin.entry.command).isSome with
  | true =>
      rw [addBuiltin_of_present present]
      exact present
  | false =>
      rw [addBuiltin_of_absent present]
      exact isSome_handler?_install builtin.entry follows lasting

/-- Storing built-in commands stores no command of a plugin. -/
theorem plugin_of_addBuiltin {builtin : Builtin} (follows : state.FollowsPlugins)
    {agent command name : Value} {handle : Nat}
    (found :
      (addBuiltin true state builtin).tables.handler? agent command =
        some (.plugin handle name)) :
    state.tables.handler? agent command = some (.plugin handle name) := by
  cases present :
      (state.tables.handler? builtin.entry.agent builtin.entry.command).isSome with
  | true =>
      rw [addBuiltin_of_present present] at found
      exact found
  | false =>
      rw [addBuiltin_of_absent present] at found
      rcases handler?_install follows found with ⟨-, own⟩ | earlier | ⟨callable, own⟩
      · cases own
      · exact earlier
      · cases own

theorem grows_foldl_addBuiltin (quiet : Bool) (builtins : List Builtin)
    (follows : state.FollowsPlugins) :
    Grows state (builtins.foldl (addBuiltin quiet) state) := by
  induction builtins generalizing state with
  | nil => exact .refl state
  | cons builtin rest induction =>
      have first := grows_addBuiltin quiet builtin follows
      exact first.trans (induction (first.followsPlugins follows))

theorem isSome_handler?_foldl_addBuiltin {builtins : List Builtin} {builtin : Builtin}
    (member : builtin ∈ builtins) (follows : state.FollowsPlugins) (lasting : state.Lasting) :
    ((builtins.foldl (addBuiltin true) state).tables.handler? builtin.entry.agent
      builtin.entry.command).isSome = true := by
  induction builtins generalizing state with
  | nil => cases member
  | cons first rest induction =>
      have grows := grows_addBuiltin true first follows
      have grown := grows.followsPlugins follows
      have kept := grows.lasting lasting
      rcases List.mem_cons.mp member with rfl | later
      · exact (grows_foldl_addBuiltin true rest grown).isSome_handler? kept
          (isSome_handler?_addBuiltin builtin follows lasting)
      · exact induction later grown kept

theorem plugin_of_foldl_addBuiltin {builtins : List Builtin} (follows : state.FollowsPlugins)
    {agent command name : Value} {handle : Nat}
    (found :
      (builtins.foldl (addBuiltin true) state).tables.handler? agent command =
        some (.plugin handle name)) :
    state.tables.handler? agent command = some (.plugin handle name) := by
  induction builtins generalizing state with
  | nil => exact found
  | cons builtin rest induction =>
      have grown := (grows_addBuiltin true builtin follows).followsPlugins follows
      exact plugin_of_addBuiltin follows (induction grown found)

/-- The keys of an entry have no handler among entries of other keys. -/
theorem isSome_handler?_of_distinct {entries rest : List Entry} {entry : Entry}
    (distinct : (entries ++ entry :: rest).Pairwise fun earlier later =>
      earlier.isOf later.agent later.command = false) :
    ((ofEntries entries).handler? entry.agent entry.command).isSome = false := by
  rw [isSome_handler?_ofEntries, List.any_eq_false]
  intro earlier member
  have apart := (List.pairwise_append.mp distinct).2.2 earlier member entry List.mem_cons_self
  simp [apart]

theorem tables_foldl_addBuiltin_of_quiet (builtins : List Builtin) {entries : List Entry}
    (distinct :
      (entries ++ builtins.map Builtin.entry).Pairwise fun earlier later =>
        earlier.isOf later.agent later.command = false)
    (follows : state.FollowsPlugins) (quiet : state.Quiet)
    (kept : state.tables = ofEntries entries) :
    (builtins.foldl (addBuiltin true) state).tables =
      ofEntries (entries ++ builtins.map Builtin.entry) := by
  induction builtins generalizing state entries with
  | nil => simpa using kept
  | cons builtin rest induction =>
      have absent :
          (state.tables.handler? builtin.entry.agent builtin.entry.command).isSome = false :=
        kept ▸ isSome_handler?_of_distinct distinct
      have grows := grows_addBuiltin true builtin follows
      have stored :
          (addBuiltin true state builtin).tables = ofEntries (entries ++ [builtin.entry]) := by
        rw [addBuiltin_of_absent absent]
        exact tables_install_of_quiet builtin.entry quiet kept
      have tail := induction (by simpa using distinct) (grows.followsPlugins follows)
        (grows.quiet quiet) stored
      simpa using tail

/-- The tables are emptied before the built-in commands are stored. -/
def cleared (state : Dispatcher) : Dispatcher :=
  { state with tables := CommandTables.empty }

theorem start_state (state : Dispatcher) :
    (Rebuild.start state).state = Builtin.all.foldl (addBuiltin true) state.cleared := by
  simp only [Rebuild.start, addBuiltins, cleared]

theorem grows_start (follows : state.FollowsPlugins) :
    Grows state.cleared (Rebuild.start state).state := by
  rw [start_state]
  exact grows_foldl_addBuiltin true _ follows

theorem isSome_handler?_start (builtin : Builtin) (follows : state.FollowsPlugins)
    (lasting : state.Lasting) :
    ((Rebuild.start state).state.tables.handler? builtin.entry.agent
      builtin.entry.command).isSome = true := by
  have member : builtin ∈ Builtin.all := by cases builtin <;> decide
  rw [start_state]
  exact isSome_handler?_foldl_addBuiltin member follows lasting

theorem start_not_plugin (follows : state.FollowsPlugins) (agent command name : Value)
    (handle : Nat) :
    (Rebuild.start state).state.tables.handler? agent command ≠ some (.plugin handle name) := by
  intro found
  rw [start_state] at found
  have clearedFollows : state.cleared.FollowsPlugins := follows
  have cleared := plugin_of_foldl_addBuiltin clearedFollows found
  cases cleared

theorem tables_start_of_quiet (follows : state.FollowsPlugins) (quiet : state.Quiet) :
    (Rebuild.start state).state.tables = ofEntries (Builtin.all.map Builtin.entry) := by
  have distinct :
      ([] ++ Builtin.all.map Builtin.entry).Pairwise fun earlier later : Entry =>
        earlier.isOf later.agent later.command = false := by
    decide +kernel
  rw [start_state]
  exact tables_foldl_addBuiltin_of_quiet Builtin.all distinct follows quiet rfl

end Dispatcher

end ChatDispatch
