import ChatDispatch.Dispatcher.Plugins

/-!
# External plugins

External plugins are loaded from scripts under some paths; loading replaces all of them.
Scripts that fail and plugins that do not qualify are left out.
-/

namespace ChatDispatch.Dispatcher

/-- Loads the plugin of a script; a script that does not run, has no factory or whose
factory fails gives none. -/
def loadScript (reload : Bool) (state : Dispatcher) (script : ScriptFile) :
    Dispatcher × Option Nat :=
  let (modules, outcome) :=
    state.modules.load script.location script.source none reload (script.node state.files)
  let loaded := { state with modules }
  match outcome with
  | .error _ => (loaded, none)
  | .ok module =>
      match module.content with
      | .factory blueprint width _ none =>
          let (built, handle) := loaded.build blueprint width
          (built, handle.toOption)
      | _ => (loaded, none)

def loadScripts (reload : Bool) (state : Dispatcher) : List ScriptFile → Dispatcher × List Nat
  | [] => (state, [])
  | script :: rest =>
      let (loaded, handle) := loadScript reload state script
      let (all, handles) := loadScripts reload loaded rest
      (all, handle.toList ++ handles)

/-- Loads the plugins under some paths; a value that is no path is a fault. -/
def loadUnder (reload : Bool) (state : Dispatcher) :
    List Value → Dispatcher × Except Fault (List Nat)
  | [] => (state, .ok [])
  | .text text :: rest =>
      match ScriptFile.under state.files text with
      | .error fault => (state, .error fault)
      | .ok scripts =>
          let (loaded, handles) := loadScripts reload state scripts
          let (all, outcome) := loadUnder reload loaded rest
          (all, outcome.map (handles ++ ·))
  | other :: _ => (state, .error (.notAPath other.kind))

/-- Whether all declarations of a plugin can be read.  One of the wrong form or without a
name only disqualifies the plugin, any other fault counts. -/
def qualifies (state : Dispatcher) (handle : Nat) : Except Fault Bool :=
  let checked :=
    (state.declarationsOf handle).bind fun declarations => declarations.mapM (·.normalize)
  match checked with
  | .ok _ => .ok true
  | .error fault =>
      match fault.category with
      | .attribute => .ok false
      | .value => .ok false
      | _ => .error fault

/-- Registers loaded plugins as external ones, as far as they qualify. -/
def registerLoaded (state : Dispatcher) : List Nat → Dispatcher × Except Fault Unit
  | [] => (state, .ok ())
  | handle :: rest =>
      match state.qualifies handle with
      | .error fault => (state, .error fault)
      | .ok false => registerLoaded state rest
      | .ok true =>
          match state.registerPlugin (some handle) .external with
          | (stopped, .error fault) => (stopped, .error fault)
          | (registered, .ok _) => registerLoaded registered rest

def unregisterExternals (state : Dispatcher) : Dispatcher :=
  (state.registered.external.map (·.1)).foldl
    (fun state id => (state.unregisterPlugin id .external).1) state

/-- Replaces the external plugins by those under the given paths; gives their number. -/
def loadExternal (state : Dispatcher) (paths : Value) (reload : Bool) :
    Dispatcher × Except Fault Nat :=
  let cleared := state.unregisterExternals
  match Declaration.itemsOf (paths.orElse (.list [])) with
  | .error fault => (cleared, .error fault)
  | .ok paths =>
      match loadUnder reload cleared paths with
      | (stopped, .error fault) => (stopped, .error fault)
      | (loaded, .ok handles) =>
          match loaded.registerLoaded handles with
          | (stopped, .error fault) => (stopped, .error fault)
          | (registered, .ok ()) => (registered, .ok registered.registered.external.length)

def pathsSetting : String := "plugin-paths"

/-- The paths to load plugins from: the given ones or else those in the settings; one
path may stand for a list of them. -/
def pluginPaths (state : Dispatcher) (paths : Value) : Except Fault Value :=
  let chosen :=
    if paths = .null then state.settings.get [pathsSetting] (.list []) else .ok paths
  chosen.map fun chosen =>
    match chosen with
    | .text path => .list [.text path]
    | other => other

/-- Loads and starts the external plugins, and refreshes the tables; gives the number of
the plugins' commands. -/
def loadPlugins (state : Dispatcher) (paths : Value) (reload : Bool) :
    Dispatcher × Except Fault Nat :=
  match state.pluginPaths paths with
  | .error fault => (state, .error fault)
  | .ok paths =>
      match state.loadExternal paths reload with
      | (stopped, .error fault) => (stopped, .error fault)
      | (loaded, .ok _) =>
          match loaded.startAll.waitForRefresh with
          | (stopped, .error fault) => (stopped, .error fault)
          | (waited, .ok ()) => waited.refresh

end ChatDispatch.Dispatcher
