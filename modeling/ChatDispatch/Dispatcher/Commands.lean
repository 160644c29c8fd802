import ChatDispatch.CommandLine.Parse
import ChatDispatch.Dispatcher.Notify

/-!
# Registering commands

Handlers and usages are registered one by one, or together from a declaration that
carries the full id of its command.
-/

namespace ChatDispatch.Dispatcher

def addHandler (state : Dispatcher) (quiet : Bool) (agent command : Value)
    (handler : Option Handler) : Dispatcher × Except Fault (Option Refusal) :=
  addHandlerWith announce quiet agent command handler state

/-- Registers a handler; the flag tells whether it was stored. -/
def register (state : Dispatcher) (agent command : Value) (handler : Option Handler) :
    Dispatcher × Except Fault Bool :=
  let (after, outcome) := state.addHandler false agent command handler
  (after, outcome.map Option.isNone)

/-- Removes a command with its usage; the flag tells whether there was a handler. -/
def unregister (state : Dispatcher) (agent command : Value) : Dispatcher × Except Fault Bool :=
  removeHandlerWith announce agent command state

/-- Registers a usage, if one is given; the flag tells whether it was accepted. -/
def registerUsage (state : Dispatcher) : Option Usage → Dispatcher × Except Fault Bool
  | none => (state, .ok false)
  | some usage =>
      let (tables, outcome) := state.tables.addUsage usage
      ({ state with tables }, outcome)

/-- Stores one built-in command, and its usage unless the handler was refused. -/
def addBuiltin (quiet : Bool) (state : Dispatcher) (builtin : Builtin) : Dispatcher :=
  let (after, outcome) :=
    state.addHandler quiet (.text coreAgent) (.text builtin.key) (some (.builtin builtin))
  match outcome with
  | .ok none => (after.registerUsage (some builtin.usage)).1
  | _ => after

def addBuiltins (state : Dispatcher) (quiet : Bool) : Dispatcher :=
  Builtin.all.foldl (addBuiltin quiet) state

/-- What answers a declared command: its handler takes arguments and flags, everything
else only the arguments. -/
def handlerOf (declaration : Declaration) (command : PluginCommand) : Handler :=
  match declaration.callable? "handler" with
  | some callable => .flexible callable
  | none => .declared command

/-- The usage of a declared command; its form is by default its full name after the
declared sigil, or after a slash. -/
def usageOf (declaration : Declaration) (command : PluginCommand) (agent name : String) :
    Usage :=
  let sigil := (declaration.value "prefix").orElse (.text Sigil.slash.text)
  { agent := .text agent
    command := .text name
    description := command.description
    form := command.form.orElse (.text (sigil.asText ++ command.name.asText))
    examples := command.examples }

/-- Registers a declared command under its full id. -/
def registerCommand (state : Dispatcher) (declaration : Declaration) :
    Dispatcher × Except Fault Bool :=
  match declaration.normalize with
  | .error (.namelessDeclaration _) => (state, .ok false)
  | .error fault => (state, .error fault)
  | .ok command =>
      match command.name with
      | .text id =>
          let (agent, name) := splitId id
          let (after, outcome) :=
            state.register (.text agent) (.text name) (some (handlerOf declaration command))
          match outcome with
          | .ok true =>
              let (described, outcome) :=
                after.registerUsage (some (usageOf declaration command agent name))
              (described, outcome.map fun _ => true)
          | other => (after, other)
      | other => (state, .error (.noAttribute other.kind "partition"))

end ChatDispatch.Dispatcher
