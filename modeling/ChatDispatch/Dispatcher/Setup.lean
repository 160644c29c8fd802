import ChatDispatch.Dispatcher.Commands

/-!
# Setting up

A new dispatcher has the built-in commands.  It reads plugins from a source, and follows
the events about them when the source tells of any.  For a chat front end, plugins are
read at once, and models and notices come from the settings.
-/

namespace ChatDispatch.Dispatcher

/-- Schedules a refresh at every event about plugins. -/
def follow (state : Dispatcher) : Dispatcher :=
  state.subscribeAll Topic.ofPlugins .refresher

/-- Reads the plugins at once from now on, and follows the events about them. -/
def attach (state : Dispatcher) : Dispatcher :=
  { state with source := .direct }.follow

/-- A dispatcher with the built-in commands that reads plugins from a source. -/
def setUp (state : Dispatcher) (source : Source) (follows : Bool) : Dispatcher :=
  let connected := { state with source }
  (if follows then connected.follow else connected).addBuiltins false

/-- A dispatcher for a chat front end; the models are by default those of the settings. -/
def setUpFrontEnd (state : Dispatcher) : Except Fault Dispatcher :=
  let models : Except Fault ModelStore :=
    match state.models with
    | some store => .ok store
    | none => ModelStore.ofSettings state.files state.settings
  match models with
  | .error fault => .error fault
  | .ok store =>
      (Notices.ofSettings (some state.settings)).map fun notices =>
        { state with models := some store, notices }.setUp .direct true

end ChatDispatch.Dispatcher
