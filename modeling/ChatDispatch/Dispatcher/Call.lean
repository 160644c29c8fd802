import ChatDispatch.Dispatcher.Plugins
import ChatDispatch.Outcome

/-!
# Calls

Every call of a callable, and every command that a plugin is given, is noted in the
state, so that what ran can be told from it.
-/

namespace ChatDispatch

/-- Whether a call is one of the callable with a number. -/
def Call.isOf (number : Nat) : Call → Bool
  | .callable called _ => called == number
  | .plugin .. => false

namespace Dispatcher

def noteCall (state : Dispatcher) (call : Call) : Dispatcher :=
  { state with calls := state.calls ++ [call] }

def timesCalled (state : Dispatcher) (callable : Callable) : Nat :=
  (state.calls.filter (Call.isOf callable.number)).length

def call (state : Dispatcher) (callable : Callable) (arguments : List Value) :
    Dispatcher × Outcome :=
  (state.noteCall (.callable callable.number arguments),
    state.answers callable.code (state.timesCalled callable) arguments)

/-- Calls a value, which should be a callable. -/
def callValue (state : Dispatcher) (arguments : List Value) : Value → Dispatcher × Outcome
  | .callable callable _ => state.call callable arguments
  | content => (state, .error (.notCallable content.kind))

/-- A list of arguments as a value, `null` if there is none. -/
def argumentValue : Option (List Value) → Value
  | some arguments => .list arguments
  | none => .null

/-- Runs what a command declares.  Without a list of arguments there are none that it could
be called with one by one. -/
def runDeclared (state : Dispatcher) (command : PluginCommand)
    (arguments : Option (List Value)) : Dispatcher × Outcome :=
  match command.runner, arguments with
  | none, _ => (state, .error (.nothingToRun command.name.asText))
  | some (.onList target), arguments => state.callValue [argumentValue arguments] target
  | some (.onEach target), some arguments => state.callValue arguments target
  | some (.onEach target), none => (state, .error (.notArguments target.asText .null))

/-- Lets the plugin of a handle run a command: a managed one runs what it has under the
name, a foreign one answers by itself. -/
def runPlugin (state : Dispatcher) (handle : Nat) (name : Value)
    (arguments : Option (List Value)) : Dispatcher × Outcome :=
  match state.plugin? handle with
  | none => (state, .ok .null)
  | some plugin =>
      let noted := state.noteCall (.plugin handle name arguments)
      match plugin.body with
      | .managed _ =>
          match plugin.find? name with
          | some command => noted.runDeclared command arguments
          | none => (noted, .error (.commandNotFound plugin.id.asText name.asText []))
      | .foreign _ conduct => (noted, conduct.answer name arguments)

/-- Runs the command of a plugin that is switched on and declares it. -/
def runPluginCommand (state : Dispatcher) (id name : Value)
    (arguments : Option (List Value)) : Dispatcher × Outcome :=
  match state.findCommand? id name with
  | .error fault => (state, .error fault)
  | .ok none => (state, .error (.commandNotFound id.asText name.asText []))
  | .ok (some (handle, _)) => state.runPlugin handle name arguments

end Dispatcher

end ChatDispatch
