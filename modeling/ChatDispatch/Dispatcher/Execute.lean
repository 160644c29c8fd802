import ChatDispatch.CommandLine.Lead
import ChatDispatch.Dispatcher.Builtins
import ChatDispatch.Dispatcher.Call
import ChatDispatch.Dispatcher.Passage

/-!
# Running commands

A command after an at sign goes to the plugin of its agent, one after a slash to the
handler of the tables.  Arguments go with the command either way; flags only reach
handlers.
-/

namespace ChatDispatch.Dispatcher

def runHandler (state : Dispatcher) (handler : Handler) (arguments : List Value)
    (flags : Entries) : Dispatcher × Outcome :=
  match handler with
  | .builtin builtin => state.runBuiltin builtin arguments flags
  | .plugin handle name => state.runPlugin handle name (some arguments)
  | .declared command => state.runDeclared command (some arguments)
  | .flexible callable => state.call callable [.list arguments, .map flags]
  | .direct callable =>
      let (after, outcome) := state.call callable [.list arguments, .map flags]
      (after, callable.awaited outcome)

/-- Runs the handler of an agent's command; without one, similar commands are
suggested. -/
def runTables (state : Dispatcher) (agent command : Value) (arguments : List Value)
    (flags : Entries) : Dispatcher × Outcome :=
  match state.tables.findHandler agent command with
  | .error fault => (state, .error fault)
  | .ok (some handler) => state.runHandler handler arguments flags
  | .ok none =>
      match state.tables.suggestions agent command with
      | .error fault => (state, .error fault)
      | .ok suggestions =>
          (state, .error (.commandNotFound agent.asText command.asText suggestions))

/-- Runs the handler of a command that is given by its id. -/
def runById (state : Dispatcher) (id : String) (arguments : List Value)
    (flags : Entries) : Dispatcher × Outcome :=
  state.runTables (.text (splitId id).1) (.text (splitId id).2) arguments flags

/-- Whether the command of an id has a handler. -/
def hasCommand (state : Dispatcher) (id : String) : Bool :=
  (state.tables.handler? (.text (splitId id).1) (.text (splitId id).2)).isSome

/-- Runs a command of the plugin of an agent, if the gates are open. -/
def runAgent (state : Dispatcher) (agent command : Value) (arguments : List Value) :
    Dispatcher × Outcome :=
  match state.passage agent with
  | .reply value => (state, .ok value)
  | .refused fault => (state, .error fault)
  | .open handle => state.runPlugin handle command (some arguments)

def execute (state : Dispatcher) (lead : Lead) (agent command : Value)
    (arguments : List Value) (flags : Entries) : Dispatcher × Outcome :=
  match lead.sigil? with
  | some .at => state.runAgent agent command arguments
  | some .slash => state.runTables agent command arguments flags
  | _ => (state, .error (.unsupportedSigil lead.shown))

/-- The lead of a text: the sigil it starts with, or else its first character. -/
def leadOf : List Char → Lead
  | [] => .value (.text "")
  | first :: _ =>
      match Sigil.ofChar? first with
      | some sigil => .sigil sigil
      | none => .value (.text (String.ofList [first]))

/-- Runs the command that a text names after its lead, with the given arguments. -/
def executeText (state : Dispatcher) (text : String) (arguments : List Value)
    (flags : Entries) : Dispatcher × Outcome :=
  let id := splitId (String.ofList (text.toList.drop 1))
  state.execute (leadOf text.toList) (.text id.1) (.text id.2) arguments flags

/-- Runs a text if it is a command, and gives nothing if it is ordinary chat text. -/
def run (state : Dispatcher) (text : String) : Dispatcher × Except Fault (Option Value) :=
  match CommandLine.parse? text with
  | none => (state, .ok none)
  | some command =>
      let (after, outcome) :=
        state.execute (.sigil command.sigil) (.text command.agent) (.text command.command)
          command.arguments command.flags
      (after, outcome.map some)

end ChatDispatch.Dispatcher
