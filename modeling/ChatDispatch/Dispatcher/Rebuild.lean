import ChatDispatch.Dispatcher.Commands

/-!
# Rebuilding the tables

A rebuild empties both tables, stores the built-in commands and then those of the given
plugins, one declaration after the other.  A command that cannot be stored is noted as a
failure and skipped.  A declaration that cannot even be read ends the rebuild with a
fault, which leaves the tables as far as they have been built.
-/

namespace ChatDispatch.Dispatcher

/-- A rebuild under way: the state, the commands that could not be stored and the number
of those that were. -/
structure Rebuild where
  state : Dispatcher
  failures : List Failure
  count : Nat

namespace Rebuild

/-- Empties the tables and stores the built-in commands. -/
def start (state : Dispatcher) : Rebuild :=
  ⟨{ state with tables := CommandTables.empty }.addBuiltins true, [], 0⟩

/-- Notes a command that could not be stored. -/
def skip (rebuild : Rebuild) (agent command : Value) (reason : String) : Rebuild :=
  { rebuild with failures := rebuild.failures ++ [⟨agent, command, reason⟩] }

/-- The usage of a plugin's command; its form is by default its full name after an at
sign. -/
def usageOf (agent : Value) (command : PluginCommand) : Usage :=
  { agent
    command := command.name
    description := command.description
    form := command.form.orElse
      (.text (Sigil.at.text ++ agent.asText ++ ":" ++ command.name.asText))
    examples := command.examples }

/-- Stores a command of a plugin with its usage. -/
def storeCommand (handle : Nat) (agent : Value) (rebuild : Rebuild)
    (command : PluginCommand) : Rebuild × Option Fault :=
  let (state, outcome) :=
    rebuild.state.addHandler true agent command.name (some (.plugin handle command.name))
  let handled := { rebuild with state }
  match outcome with
  | .error fault => (handled, some fault)
  | .ok (some refusal) => (handled.skip agent command.name refusal.message, none)
  | .ok none =>
      ({ handled with
          state := (state.registerUsage (some (usageOf agent command))).1
          count := rebuild.count + 1 },
        none)

def storeDeclaration (handle : Nat) (agent : Value) (rebuild : Rebuild)
    (declaration : Declaration) : Rebuild × Option Fault :=
  match declaration.normalize with
  | .error (.namelessDeclaration shown) =>
      (rebuild.skip agent (.text "?") (Fault.namelessDeclaration shown).message, none)
  | .error fault => (rebuild, some fault)
  | .ok command => storeCommand handle agent rebuild command

/-- Stores the declared commands of a plugin, until one ends the rebuild. -/
def storeDeclarations (handle : Nat) (agent : Value) (rebuild : Rebuild) :
    List Declaration → Rebuild × Option Fault
  | [] => (rebuild, none)
  | declaration :: rest =>
      match storeDeclaration handle agent rebuild declaration with
      | (stopped, some fault) => (stopped, some fault)
      | (stored, none) => storeDeclarations handle agent stored rest

/-- Stores the commands of a plugin; one that cannot list them is noted. -/
def storePlugin (rebuild : Rebuild) (handle : Nat) : Rebuild × Option Fault :=
  match rebuild.state.plugin? handle with
  | none => (rebuild, none)
  | some plugin =>
      match plugin.declarations with
      | .error fault =>
          (rebuild.skip plugin.id (.text "*") ("get_commands failed: " ++ fault.message), none)
      | .ok declarations => storeDeclarations handle plugin.id rebuild declarations

/-- Stores the commands of all plugins, until one ends the rebuild. -/
def storePlugins (rebuild : Rebuild) : List Nat → Rebuild × Option Fault
  | [] => (rebuild, none)
  | handle :: rest =>
      match storePlugin rebuild handle with
      | (stopped, some fault) => (stopped, some fault)
      | (stored, none) => storePlugins stored rest

end Rebuild

/-- Rebuilds the tables from plugins; gives the number of their commands. -/
def rebuild (state : Dispatcher) (handles : List Nat) : Dispatcher × Except Fault Nat :=
  match (Rebuild.start state).storePlugins handles with
  | (stopped, some fault) => (stopped.state, .error fault)
  | (done, none) =>
      ({ done.state with failures := done.failures, needsRefresh := false }, .ok done.count)

end ChatDispatch.Dispatcher
