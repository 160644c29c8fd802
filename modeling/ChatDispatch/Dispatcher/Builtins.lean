import ChatDispatch.CommandTables.HelpText
import ChatDispatch.Dispatcher
import ChatDispatch.Outcome

/-!
# Built-in commands

Two commands help, one for each sigil; one switches the active model and one lists the
models or searches them.
-/

namespace ChatDispatch.Dispatcher

/-- What the commands about models say when there are no models. -/
def noModels : String := "Model configuration is not available."

/-- The flag that keeps a switch from being saved. -/
def noSaveFlag : String := "no-save"

/-- The flag that extends a search to the catalogue. -/
def allFlag : String := "all"

/-- Switches the active model of a store; gives its name. -/
def setActiveModel (state : Dispatcher) (store : ModelStore) (name : Value) (persist : Bool) :
    Dispatcher × Outcome :=
  let switched := store.switch state.settings state.files name persist
  ({ state with
      models := some switched.store
      settings := switched.settings
      files := switched.files },
    switched.outcome)

/-- Writes a value at a path of the settings. -/
def writeSetting (state : Dispatcher) (path : String) (value : Value) : Dispatcher :=
  let settings := state.settings.set path value
  { state with
      settings
      models := state.models.map fun store => store.afterWrite settings path }

/-- The command that switches the active model, or tells it. -/
def runModel (state : Dispatcher) (arguments : List Value) (flags : Entries) :
    Dispatcher × Outcome :=
  match state.models, arguments with
  | none, _ => (state, .ok (.text noModels))
  | some store, [] => (state, .ok (.text store.switchHint))
  | some store, first :: _ =>
      let name := first.asText
      let persist := !(fieldOr flags noSaveFlag (.bool false)).holds
      let (after, outcome) := state.setActiveModel store (.text name) persist
      (after, outcome.map fun _ => .text (store.switchReport name))

/-- The command that lists the models, or searches for some. -/
def runModels (state : Dispatcher) (arguments : List Value) (flags : Entries) :
    Outcome :=
  match state.models, arguments with
  | none, _ => .ok (.text noModels)
  | some store, [] => .ok (.text store.overview)
  | some store, first :: _ =>
      let term := first.asText
      (Model.search store.models state.catalogue term (fieldOr flags allFlag .null).holds).map
        fun found => .text (store.searchReport term found)

def runBuiltin (state : Dispatcher) (builtin : Builtin) (arguments : List Value)
    (flags : Entries) : Dispatcher × Outcome :=
  match builtin with
  | .help => (state, state.tables.pluginHelp.map .text)
  | .slashHelp => (state, state.tables.slashHelp.map .text)
  | .model => state.runModel arguments flags
  | .models => (state, state.runModels arguments flags)

end ChatDispatch.Dispatcher
