import ChatDispatch.Dispatcher.Refresh

/-!
# Registering plugins

Plugins are registered under their ids, internal and external ones apart.  Whatever
changes is announced.
-/

namespace ChatDispatch.Dispatcher

def pluginPayload (id : Value) (sort : PluginSort) : List Value :=
  [.map [("id", id), ("type", .text sort.text)]]

/-- Registers a plugin; the flag tells whether it was accepted.  Nothing, a plugin
without an id, and an id that is in use are refused. -/
def registerPlugin (state : Dispatcher) (handle : Option Nat) (sort : PluginSort) :
    Dispatcher × Except Fault Bool :=
  match handle.bind fun handle => (state.plugin? handle).map fun plugin => (handle, plugin.id) with
  | none => (state, .ok false)
  | some (handle, id) =>
      let table := state.registered.ofSort sort
      if !id.holds then
        (state, .ok false)
      else if !id.isKey then
        (state, .error (.notAKey id.kind))
      else if Table.holds id table then
        (state, .ok false)
      else
        let registered := state.registered.setSort (Table.store id handle table) sort
        (announce .pluginRegistered (pluginPayload id sort) { state with registered }, .ok true)

/-- Removes a plugin; the flag tells whether there was one. -/
def unregisterPlugin (state : Dispatcher) (id : Value) (sort : PluginSort) :
    Dispatcher × Except Fault Bool :=
  let table := state.registered.ofSort sort
  if !id.isKey then
    (state, .error (.notAKey id.kind))
  else if !Table.holds id table then
    (state, .ok false)
  else
    let registered := state.registered.setSort (Table.remove id table) sort
    (announce .pluginUnregistered (pluginPayload id sort) { state with registered }, .ok true)

def findPlugin? (state : Dispatcher) (id : Value) : Except Fault (Option Nat) :=
  if id.isKey then .ok (state.registered.find? id) else .error (.notAKey id.kind)

/-- The declarations of the plugin of a handle. -/
def declarationsOf (state : Dispatcher) (handle : Nat) : Except Fault (List Declaration) :=
  match state.plugin? handle with
  | some plugin => plugin.declarations
  | none => .ok []

def declarationsOfAll (state : Dispatcher) : List Nat → Except Fault (List Declaration)
  | [] => .ok []
  | handle :: rest =>
      match state.declarationsOf handle with
      | .error fault => .error fault
      | .ok own => (declarationsOfAll state rest).map (own ++ ·)

/-- The declarations of all plugins that are switched on. -/
def allDeclarations (state : Dispatcher) : Except Fault (List Declaration) :=
  state.declarationsOfAll state.enabledHandles

/-- Whether a declaration has a name or an id. -/
def isCalled (name : Value) (declaration : Declaration) : Bool :=
  declaration.value "name" == name || declaration.value "id" == name

/-- The plugin of an id, if it is switched on, and its first command of a name. -/
def findCommand? (state : Dispatcher) (id name : Value) :
    Except Fault (Option (Nat × Declaration)) :=
  match state.findPlugin? id with
  | .error fault => .error fault
  | .ok none => .ok none
  | .ok (some handle) =>
      if state.isEnabled handle then
        (state.declarationsOf handle).map fun declarations =>
          (declarations.find? (isCalled name)).map fun declaration => (handle, declaration)
      else
        .ok none

/-- Starts the plugin of a handle; the outcome tells whether it is ready. -/
def startPlugin (state : Dispatcher) (handle : Nat) : Dispatcher × Except Fault Bool :=
  match state.plugin? handle with
  | none => (state, .ok false)
  | some plugin =>
      match plugin.start with
      | .error fault => (state, .error fault)
      | .ok started => (state.setPlugin handle started, .ok started.isReady)

/-- Starts every plugin that is switched on, whatever becomes of the others. -/
def startAll (state : Dispatcher) : Dispatcher :=
  announce .pluginsStarted [] <|
    state.enabledHandles.foldl (fun state handle => (state.startPlugin handle).1) state

end ChatDispatch.Dispatcher
